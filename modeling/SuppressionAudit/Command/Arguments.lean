import SuppressionAudit.Config

/-!
# Arguments

The command takes at most one directory, which is the current one unless it is named, and three
options in any place: the executable that runs the linter, more words about the work, and help. A
long option may carry its value after an equals sign; otherwise the value is the next argument,
whatever that looks like. Short options may be joined. Two dashes end the options, and a single dash
is no option. When an option is given twice the last value counts.
-/

namespace SuppressionAudit

structure Arguments where
  roots : List Text
  executable : Text
  verbose : Bool
  help : Bool
deriving DecidableEq, Repr

inductive UsageError where
  | unknownOption (name : Text)
  | valueMissing (name : Text)
  | valueUnexpected (name : Text)
  | extraArgument (text : Text)
  | rootNotFound (root : Text)
  | rootNotDirectory (root : Text)
deriving DecidableEq, Repr

namespace Arguments

def initial : Arguments :=
  { roots := [], executable := ScanConfig.defaultExecutable, verbose := false, help := false }

def endOfOptions : Text := "--".toList

def executableOption : Text := "--node".toList

def verboseOption : Text := "--verbose".toList

def helpOption : Text := "--help".toList

def withSwitch (a : Arguments) (name : Text) : Except UsageError Arguments :=
  if name = verboseOption then .ok { a with verbose := true }
  else if name = helpOption then .ok { a with help := true }
  else .error (.unknownOption name)

/-- The arguments after joined short options. -/
def withLetters : Arguments → Text → Except UsageError Arguments
  | a, [] => .ok a
  | a, c :: s =>
    if c = 'v' then withLetters { a with verbose := true } s
    else .error (.unknownOption ['-', c])

def withAssignment (a : Arguments) (name value : Text) : Except UsageError Arguments :=
  if name = executableOption then .ok { a with executable := value }
  else if name = verboseOption || name = helpOption then .error (.valueUnexpected name)
  else .error (.unknownOption name)

/-- The arguments after one option that does not take the next argument as its value. -/
def withOption (a : Arguments) (text : Text) : Except UsageError Arguments :=
  match text with
  | '-' :: '-' :: _ =>
    match Text.cutAt '=' text with
    | (name, some value) => a.withAssignment name value
    | (name, none) => a.withSwitch name
  | _ => a.withLetters (text.drop 1)

def isOption (text : Text) : Bool :=
  match text with
  | '-' :: _ :: _ => true
  | _ => false

/-- The arguments with what a list of texts asks for. -/
def readFrom : Arguments → List Text → Except UsageError Arguments
  | a, [] => .ok a
  | a, text :: rest =>
    if text = endOfOptions then .ok { a with roots := a.roots ++ rest }
    else if text = executableOption then
      match rest with
      | [] => .error (.valueMissing text)
      | value :: rest => readFrom { a with executable := value } rest
    else if isOption text then (a.withOption text).bind fun b => readFrom b rest
    else readFrom { a with roots := a.roots ++ [text] } rest

def read (texts : List Text) : Except UsageError Arguments := readFrom initial texts

/-- The directory that is asked for, the current one unless it is named. -/
def root (a : Arguments) : Text := a.roots.head?.getD Path.here

def extra? (a : Arguments) : Option Text := a.roots[1]?

end Arguments

end SuppressionAudit

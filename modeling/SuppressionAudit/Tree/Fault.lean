import SuppressionAudit.Text.Quoted

/-!
# Faults

Why the operating system refuses something: a path that is looked up, read or listed, or a program
that is to be started. The wording names the error number, its description and the path in quotes.
-/

namespace SuppressionAudit

/-- A reason to refuse a path. -/
inductive Fault where
  | notFound
  | inputOutput
  | notExecutable
  | noProcess
  | outOfMemory
  | permissionDenied
  | exists
  | notDirectory
  | isDirectory
  | nameTooLong
  | tooManyLinks
deriving DecidableEq, Repr

namespace Fault

def number : Fault → Nat
  | .notFound => 2
  | .inputOutput => 5
  | .notExecutable => 8
  | .noProcess => 11
  | .outOfMemory => 12
  | .permissionDenied => 13
  | .exists => 17
  | .notDirectory => 20
  | .isDirectory => 21
  | .nameTooLong => 36
  | .tooManyLinks => 40

def description : Fault → Text
  | .notFound => "No such file or directory".toList
  | .inputOutput => "Input/output error".toList
  | .notExecutable => "Exec format error".toList
  | .noProcess => "Resource temporarily unavailable".toList
  | .outOfMemory => "Cannot allocate memory".toList
  | .permissionDenied => "Permission denied".toList
  | .exists => "File exists".toList
  | .notDirectory => "Not a directory".toList
  | .isDirectory => "Is a directory".toList
  | .nameTooLong => "File name too long".toList
  | .tooManyLinks => "Too many levels of symbolic links".toList

def message (fault : Fault) (path : Text) : Text :=
  "[Errno ".toList ++ Text.ofNat fault.number ++ "] ".toList ++ fault.description ++ ": ".toList
    ++ Text.quoted path

/-- Whether a path that is looked up with this fault counts as one at which nothing lies. A question
about what lies at a path passes on every other fault. -/
def isAbsence : Fault → Bool
  | .notFound | .notDirectory | .tooManyLinks => true
  | _ => false

end Fault

end SuppressionAudit

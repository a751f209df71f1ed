import SuppressionAudit.Json.Reader
import SuppressionAudit.Linter.Failure
import SuppressionAudit.Path
import SuppressionAudit.Severity

/-!
# Answers of the linter process

One process answers for a batch of files. It is asked by a list of paths and writes a JSON list with
one object per path, in the same order, that tells whether the file is ignored and which rules are
in force. An answer is taken as a whole or not at all: one bad object refuses the batch.
-/

namespace SuppressionAudit

structure LinterAnswer where
  ignored : Bool
  rules : Rules
deriving DecidableEq

/-- How a process ended: it could not be started, what it wrote could not be decoded, or it left with a
code and perhaps some text. -/
inductive ProcessOutcome where
  | notStarted (fault : Fault)
  | undecodable (detail : Text)
  | exited (code : Int) (output errors : Option Text)

namespace LinterAnswer

def ofJson (path : Path) : Json → Except LinterFailure LinterAnswer
  | .obj fields =>
    match Json.lookup "ignored".toList fields with
    | some (.bool ignored) =>
      match Json.lookup "rules".toList fields with
      | some (.obj rules) => .ok ⟨ignored, rules⟩
      | _ => .error (.rulesNotObject path.toText)
    | _ => .error (.ignoreNotTruthValue path.toText)
  | _ => .error (.malformedResult path.toText)

/-- The answers for files in as many objects, up to the first bad one. -/
def listOfJson : List Path → List Json → Except LinterFailure (List LinterAnswer)
  | path :: paths, item :: items =>
    match ofJson path item with
    | .error failure => .error failure
    | .ok answer =>
      match listOfJson paths items with
      | .error failure => .error failure
      | .ok answers => .ok (answer :: answers)
  | _, _ => .ok []

/-- The answers for files in a document that the process wrote, with at most `limit` lists and objects
inside each other. -/
def ofDocument (limit : Nat) (paths : List Path) (document : Text) :
    Except LinterFailure (List LinterAnswer) :=
  match Json.read document limit with
  | .error .malformed => .error .notJson
  | .error .tooDeep => .error .tooDeep
  | .ok (.arr items) =>
    if items.length = paths.length then listOfJson paths items
    else .error (.wrongCount (some items.length) paths.length)
  | .ok _ => .error (.wrongCount none paths.length)

/-- What a failed process tells: its errors, else its output, else nothing known. -/
def failureDetail (output errors : Option Text) : Text :=
  let errors := Text.trim (errors.getD [])
  let output := Text.trim (output.getD [])
  if !errors.isEmpty then errors
  else if !output.isEmpty then output
  else "unknown error".toList

/-- The answers for files that a process of a named executable gave. -/
def ofOutcome (limit : Nat) (executable : Text) (paths : List Path) :
    ProcessOutcome → Except LinterFailure (List LinterAnswer)
  | .notStarted .notFound => .error (.executableMissing executable)
  | .notStarted fault => .error (.executableRefused executable fault)
  | .undecodable detail => .error (.outputNotText detail)
  | .exited code output errors =>
    if code = 0 then ofDocument limit paths (output.getD [])
    else .error (.processFailed (failureDetail output errors))

end LinterAnswer

end SuppressionAudit

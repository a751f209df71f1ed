import SuppressionAudit.Text.Blank
import SuppressionAudit.Tree.Fault

/-!
# Failures of the linter

Why the linter gives no answer: its process could not be started or ended badly, or what it wrote is
not the answer that was asked for. Most of these are told as failures of the linter. The others are
passed on as they came: that the system refuses to start the executable, for another reason than that
it is missing, that what the process wrote is no text, and that its document is too deep. The paths in
failures are texts.
-/

namespace SuppressionAudit

inductive LinterFailure where
  | executableMissing (name : Text)
  | executableRefused (name : Text) (fault : Fault)
  | outputNotText (detail : Text)
  | processFailed (detail : Text)
  | notJson
  | tooDeep
  | wrongCount (results : Option Nat) (files : Nat)
  | malformedResult (path : Text)
  | ignoreNotTruthValue (path : Text)
  | rulesNotObject (path : Text)
  | reported (message : Text)
deriving DecidableEq, Repr

namespace LinterFailure

def message : LinterFailure → Text
  | .executableMissing name =>
    "Node.js executable '".toList ++ name ++ "' is not installed or not in PATH".toList
  | .executableRefused name fault => fault.message name
  | .outputNotText detail => detail
  | .processFailed detail => "ESLint bridge failed: ".toList ++ detail
  | .notJson => "ESLint bridge returned invalid JSON".toList
  | .tooDeep => "maximum recursion depth exceeded".toList
  | .wrongCount results files =>
    "ESLint bridge returned ".toList ++ (results.elim "no".toList Text.ofNat)
      ++ " result(s) for ".toList ++ Text.ofNat files ++ " file(s)".toList
  | .malformedResult path => "ESLint bridge returned a malformed result for ".toList ++ path
  | .ignoreNotTruthValue path =>
    "ESLint returned a non-boolean ignore result for ".toList ++ path
  | .rulesNotObject path => "ESLint returned a non-object rule config for ".toList ++ path
  | .reported message => message

/-- Whether a failure is told as one of the linter, and not passed on as it came. -/
def isTold : LinterFailure → Bool
  | .executableRefused _ _ | .outputNotText _ | .tooDeep => false
  | _ => true

end LinterFailure

end SuppressionAudit

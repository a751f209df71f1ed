import SuppressionAudit.FieldProblem
import SuppressionAudit.Linter.Failure
import SuppressionAudit.Tree.Fault

/-!
# Errors of a scan

What ends a scan without a verdict, or, after the report, a scan whose verdict fails. The paths in
errors are texts.
-/

namespace SuppressionAudit

inductive ScanError where
  | configNotFound (root : Text)
  | fileUnreadable (path : Text) (fault : Fault)
  | pathWithNul
  | pathRefused (fault : Fault)
  | documentTooDeep
  | linter (failure : LinterFailure)
  | unjustified (count : Nat)
  | invalidFinding (problems : List FieldProblem)
deriving DecidableEq, Repr

namespace ScanError

/-- A number of things, with an s at the end of their name unless it is one. -/
def plural (count : Nat) (noun : Text) : Text :=
  Text.ofNat count ++ [' '] ++ noun ++ (if count = 1 then [] else ['s'])

def message : ScanError → Text
  | .configNotFound root => "No ESLint config found in ".toList ++ root
  | .fileUnreadable path fault =>
    "Failed to read ".toList ++ path ++ ": ".toList ++ fault.message path
  | .pathWithNul => "embedded null byte".toList
  | .pathRefused fault => fault.description
  | .documentTooDeep => LinterFailure.tooDeep.message
  | .linter failure => failure.message
  | .unjustified count =>
    "Found ".toList ++ plural count "disabled ESLint error rule".toList
      ++ " without justification. Process will stop.".toList
  | .invalidFinding problems =>
    Text.ofNat problems.length ++ " field(s) of a finding do not fit".toList

end ScanError

end SuppressionAudit

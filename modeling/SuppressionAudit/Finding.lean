import SuppressionAudit.Candidate
import SuppressionAudit.Severity

/-!
# Findings

A finding is a suppression of a rule that is enforced in its file: it names the file relative to the
scan root and how strongly the rule is enforced. Lines and columns count from one. Findings can be
read from JSON, where every field is checked.
-/

namespace SuppressionAudit

inductive FindingLevel where
  | warning
  | error
deriving DecidableEq, Repr

/-- A suppression of an enforced rule. -/
structure Finding where
  filePath : Text
  line : Nat
  column : Nat
  level : FindingLevel
  rule : Text
  justificationMissing : Bool
  justification : Option Text
  kind : SuppressionKind
deriving DecidableEq, Repr

namespace FindingLevel

def name : FindingLevel → Text
  | .warning => "warning".toList
  | .error => "error".toList

def ofName? (s : Text) : Option FindingLevel :=
  if s = name .warning then some .warning else if s = name .error then some .error else none

/-- The level of a severity, unless the rule is off. -/
def ofSeverity? : Severity → Option FindingLevel
  | .off => none
  | .warning => some .warning
  | .error => some .error

end FindingLevel

namespace Finding

/-- Whether a finding is an error that nobody gave a reason for. -/
def isUnjustifiedError (f : Finding) : Bool := f.level == .error && f.justificationMissing

/-- The finding that a candidate makes in a file where its rule has a level. -/
def ofCandidate (filePath : Text) (level : FindingLevel) (c : Candidate) :
    Except (List FieldProblem) Finding :=
  match c.line, c.column, c.justification, c.kind with
  | .ok line, .ok column, .ok justification, .ok kind =>
    .ok
      { filePath := filePath
        line := line
        column := column
        level := level
        rule := c.rule
        justificationMissing := justification.isNone
        justification := justification
        kind := kind }
  | _, _, _, _ => .error c.problems

/-- The finding that a record describes, or all that does not fit in it. -/
def ofJson (record : Json) : Except (List FieldProblem) Finding :=
  let filePath := FieldCheck.required record "file_path".toList FieldCheck.text
  let line := FieldCheck.required record "line".toList FieldCheck.positive
  let column := FieldCheck.required record "column".toList FieldCheck.positive
  let level := FieldCheck.required record "severity".toList (FieldCheck.word FindingLevel.ofName?)
  let rule := FieldCheck.required record "rule_name".toList FieldCheck.text
  let missing := FieldCheck.required record "justification_missing".toList FieldCheck.truth
  let reason := FieldCheck.optional record "justification".toList none FieldCheck.textOrNull
  let kind := FieldCheck.optional record "kind".toList .line (FieldCheck.word SuppressionKind.ofName?)
  match filePath, line, column, level, rule, missing, reason, kind with
  | .ok filePath, .ok line, .ok column, .ok level, .ok rule, .ok missing, .ok reason, .ok kind =>
    .ok ⟨filePath, line, column, level, rule, missing, reason, kind⟩
  | _, _, _, _, _, _, _, _ =>
    .error <| [filePath.problem?, line.problem?, column.problem?, level.problem?, rule.problem?,
      missing.problem?, reason.problem?, kind.problem?].filterMap id

end Finding

end SuppressionAudit

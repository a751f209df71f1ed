import SuppressionAudit.Directive.Suppression
import SuppressionAudit.FieldProblem

/-!
# Candidates

A suppression that is handed in for evaluation. Nobody has checked yet whether it can be reported:
its rule is known, and each other field is either a value or what is wrong with it. A suppression
that was extracted from a text is a candidate whose fields fit.
-/

namespace SuppressionAudit

/-- A suppression before its fields are checked. -/
structure Candidate where
  rule : Text
  line : FieldCheck Nat
  column : FieldCheck Nat
  justification : FieldCheck (Option Text)
  kind : FieldCheck SuppressionKind

namespace Candidate

def ofSuppression (s : Suppression) : Candidate :=
  { rule := s.rule
    line := FieldCheck.counted "line".toList s.position.line
    column := FieldCheck.counted "column".toList s.position.column
    justification := .ok s.justification
    kind := .ok s.kind }

def ofJson (record : Json) : Candidate :=
  { rule := ((record.get? "rule".toList).bind Json.text?).getD []
    line := FieldCheck.required record "line".toList FieldCheck.positive
    column := FieldCheck.required record "column".toList FieldCheck.positive
    justification :=
      FieldCheck.optional record "justification".toList none FieldCheck.textOrNull
    kind :=
      FieldCheck.optional record "kind".toList .line (FieldCheck.word SuppressionKind.ofName?) }

def problems (c : Candidate) : List FieldProblem :=
  [c.line.problem?, c.column.problem?, c.justification.problem?, c.kind.problem?].filterMap id

end Candidate

end SuppressionAudit

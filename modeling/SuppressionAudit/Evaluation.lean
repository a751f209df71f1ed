import SuppressionAudit.Allowlist
import SuppressionAudit.Finding
import SuppressionAudit.Linter.Interface
import SuppressionAudit.ScanError

/-!
# Evaluation

What becomes of the candidates of a file. Nothing in an exempt file is reported, and no exempt rule.
The linter is asked only for the other rules; a rule that is off is not reported either. What is left
are findings, in the order of the candidates; one whose fields do not fit is an error.
-/

namespace SuppressionAudit

/-- A file under evaluation: its path for the linter and its text relative to the root. -/
structure EvaluatedFile where
  path : Path
  relative : Text
deriving DecidableEq, Repr

namespace Evaluation

variable {σ : Type}

/-- What becomes of one candidate: a finding or nothing. -/
def evaluateOne (linter : Linter σ) (allowlist : Allowlist) (file : EvaluatedFile)
    (c : Candidate) (cache : RuleCache σ) : Except ScanError (Option Finding) × RuleCache σ :=
  if allowlist.exemptsRule c.rule then (.ok none, cache)
  else
    let r := RuleCache.severityFor linter file.path c.rule cache
    (match r.1 with
      | .error failure => .error (.linter failure)
      | .ok severity =>
        match FindingLevel.ofSeverity? severity with
        | none => .ok none
        | some level =>
          match Finding.ofCandidate file.relative level c with
          | .ok finding => .ok (some finding)
          | .error problems => .error (.invalidFinding problems),
      r.2)

/-- What becomes of candidates one after the other, up to the first error. -/
def evaluateAll (linter : Linter σ) (allowlist : Allowlist) (file : EvaluatedFile) :
    List Candidate → RuleCache σ → Except ScanError (List Finding) × RuleCache σ
  | [], cache => (.ok [], cache)
  | c :: rest, cache =>
    let r := evaluateOne linter allowlist file c cache
    match r.1 with
    | .error e => (.error e, r.2)
    | .ok finding =>
      let more := evaluateAll linter allowlist file rest r.2
      (more.1.map fun findings => finding.toList ++ findings, more.2)

def evaluateFile (linter : Linter σ) (allowlist : Allowlist) (file : EvaluatedFile)
    (candidates : List Candidate) (cache : RuleCache σ) :
    Except ScanError (List Finding) × RuleCache σ :=
  if candidates.isEmpty || allowlist.exemptsPath file.relative then (.ok [], cache)
  else evaluateAll linter allowlist file candidates cache

end Evaluation

end SuppressionAudit

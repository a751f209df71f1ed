import SuppressionAudit.Report
import SuppressionAudit.Scan

/-!
# Checks

A check scans a project, prints the report, and fails when the verdict does. Nothing is printed when
the mode of the project is unknown. Otherwise the header comes first; an error of the scan ends the
printing there, and an error in the report where it arises. The failure of a verdict is told only
after the whole report.
-/

namespace SuppressionAudit

inductive CheckError where
  | scan (e : ScanError)
  | report (fault : ReportFault)
deriving DecidableEq, Repr

/-- What came of a check: its result, the lines that were printed, what the scan told, and the books
of the linter. -/
structure CheckOutcome (σ : Type) where
  result : Except CheckError Verdict
  lines : List Text
  notices : List Notice
  books : σ

namespace CheckOutcome

variable {σ : Type}

/-- A check that ended before it began. -/
def refused (e : ScanError) (books : σ) : CheckOutcome σ := ⟨.error (.scan e), [], [], books⟩

end CheckOutcome

/-- The result of a check whose report was printed. -/
def Verdict.checked (v : Verdict) (fault : Option ReportFault) : Except CheckError Verdict :=
  match fault with
  | some fault => .error (.report fault)
  | none =>
    if v.shouldFail then .error (.scan (.unjustified v.unjustifiedErrorCount)) else .ok v

/-- Checks a project with given settings, on a console of some width. -/
def checkProject {σ : Type} (project : Project) (linter : Linter σ) (config : ScanConfig)
    (width : Nat) (schedule : List Nat) (books : σ) (limit : Nat := Json.nestingLimit) :
    CheckOutcome σ :=
  let outcome := scanProject project linter config schedule books limit
  match outcome.result with
  | .error e =>
    ⟨.error (.scan e), (Report.header width).lines, outcome.notices, outcome.cache.books⟩
  | .ok verdict =>
    let printed := (Report.header width).andThen (Report.print width verdict)
    ⟨verdict.checked printed.fault, printed.lines, outcome.notices, outcome.cache.books⟩

end SuppressionAudit

import SuppressionAudit.Finding

/-!
# Verdicts

The outcome of a scan: the findings in the order of the files and the number of files, which a verdict
that is handed in only repeats. It fails when an error is without a reason. For the report the findings
are grouped by file, files and findings in the order in which they first occur.
-/

namespace SuppressionAudit

/-- The outcome of a scan. -/
structure Verdict where
  findings : List Finding
  filesScanned : Int
deriving DecidableEq, Repr

namespace Verdict

def ofFiles (perFile : List (List Finding)) (filesScanned : Int) : Verdict :=
  ⟨perFile.flatten, filesScanned⟩

def errorCount (v : Verdict) : Nat := v.findings.countP fun f => f.level == .error

def warningCount (v : Verdict) : Nat := v.findings.countP fun f => f.level == .warning

def unjustifiedErrorCount (v : Verdict) : Nat := v.findings.countP Finding.isUnjustifiedError

def shouldFail (v : Verdict) : Bool := 0 < v.unjustifiedErrorCount

end Verdict

/-! ### Groups -/

/-- Findings with the file that they lie in. -/
abbrev FindingGroups := List (Text × List Finding)

/-- Puts a finding into the group of its file, a new one at the end if there is none. -/
def addToGroups (f : Finding) : FindingGroups → FindingGroups
  | [] => [(f.filePath, [f])]
  | (path, group) :: groups =>
    if path = f.filePath then (path, group ++ [f]) :: groups
    else (path, group) :: addToGroups f groups

def groupByFile (findings : List Finding) : FindingGroups :=
  findings.foldl (fun groups f => addToGroups f groups) []

end SuppressionAudit

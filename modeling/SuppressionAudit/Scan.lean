import SuppressionAudit.Config
import SuppressionAudit.Directive.Extraction
import SuppressionAudit.Evaluation
import SuppressionAudit.Verdict

/-!
# Scans

A scan finds the source files, asks the linter which of them it ignores, and evaluates the others,
each as a task of its own. A task reads its file, then takes its candidates one by one. Tasks may
take turns in any order: a schedule lists whose turn it is, and what is unfinished after it is
finished in the order of the files. The first error of any task is the error of the scan: tasks that
have turns left in the schedule take them, and the others are dropped where they stand. Without an
error the verdict lists the findings in the order of the files, whatever the schedule.
-/

namespace SuppressionAudit

/-- What a scan works with. -/
structure ScanSetup (σ : Type) where
  project : Project
  linter : Linter σ
  allowlist : Allowlist
  config : ScanConfig

namespace Scan

variable {σ : Type}

/-! ### One file -/

def readSource (project : Project) (parts : List Text) : Except ScanError Text :=
  if Path.hasNul parts then .error .pathWithNul
  else
    match project.read parts with
    | .ok bytes => .ok (Text.unifyLineBreaks (Utf8.decodeLossy bytes))
    | .error fault => .error (.fileUnreadable (project.pathText parts) fault)

/-- The file at names below the root, as it is evaluated. -/
def fileAt (project : Project) (parts : List Text) : EvaluatedFile :=
  ⟨project.root.below parts, Path.relativeText parts⟩

/-- How far the task of a file has come. -/
inductive Task where
  | unread
  | evaluating (todo : List Candidate) (found : List Finding)
  | finished (result : Except ScanError (List Finding))

/-- A task after its file was read. -/
def afterReading (setup : ScanSetup σ) (parts : List Text) : Task :=
  match readSource setup.project parts with
  | .error e => .finished (.error e)
  | .ok content =>
    if setup.allowlist.exemptsPath (Path.relativeText parts) then .finished (.ok [])
    else .evaluating ((extractSuppressions content).map Candidate.ofSuppression) []

/-- A turn of a task. -/
def takeTurn (setup : ScanSetup σ) (parts : List Text) (task : Task) (cache : RuleCache σ) :
    Task × RuleCache σ :=
  match task with
  | .unread => (afterReading setup parts, cache)
  | .evaluating [] found => (.finished (.ok found), cache)
  | .evaluating (c :: todo) found =>
    let file := fileAt setup.project parts
    let r := Evaluation.evaluateOne setup.linter setup.allowlist file c cache
    (match r.1 with
      | .error e => .finished (.error e)
      | .ok finding => .evaluating todo (found ++ finding.toList),
      r.2)
  | .finished result => (.finished result, cache)

def finishTask (setup : ScanSetup σ) (parts : List Text) (task : Task) (cache : RuleCache σ) :
    Except ScanError (List Finding) × RuleCache σ :=
  let evaluateRest := fun (todo : List Candidate) (found : List Finding) =>
    let file := fileAt setup.project parts
    let r := Evaluation.evaluateAll setup.linter setup.allowlist file todo cache
    (r.1.map fun findings => found ++ findings, r.2)
  match task with
  | .finished result => (result, cache)
  | .evaluating todo found => evaluateRest todo found
  | .unread =>
    match afterReading setup parts with
    | .finished result => (result, cache)
    | .evaluating todo found => evaluateRest todo found
    | .unread => (.ok [], cache)

def scanFile (setup : ScanSetup σ) (parts : List Text) (cache : RuleCache σ) :
    Except ScanError (List Finding) × RuleCache σ := finishTask setup parts .unread cache

/-! ### All files -/

/-- The tasks of a scan, the rules that were fetched, and the first error. -/
structure Progress (σ : Type) where
  tasks : List (List Text × Task)
  cache : RuleCache σ
  firstError : Option ScanError

def errorOf? : Task → Option ScanError
  | .finished (.error e) => some e
  | _ => none

def turnOf (setup : ScanSetup σ) (p : Progress σ) (index : Nat) : Progress σ :=
  match p.tasks[index]? with
  | none => p
  | some (parts, task) =>
    let r := takeTurn setup parts task p.cache
    ⟨p.tasks.set index (parts, r.1), r.2, p.firstError.or (errorOf? r.1)⟩

def runSchedule (setup : ScanSetup σ) (schedule : List Nat) (p : Progress σ) : Progress σ :=
  schedule.foldl (turnOf setup) p

/-- The findings of tasks that are finished one after the other, up to the first error, and the rules
that were fetched. -/
def finishTasks (setup : ScanSetup σ) :
    List (List Text × Task) → RuleCache σ → Except ScanError (List (List Finding)) × RuleCache σ
  | [], cache => (.ok [], cache)
  | (parts, task) :: tasks, cache =>
    let r := finishTask setup parts task cache
    match r.1 with
    | .error e => (.error e, r.2)
    | .ok findings =>
      let rest := finishTasks setup tasks r.2
      (rest.1.map fun later => findings :: later, rest.2)

/-- The findings of files, file by file, under a schedule. -/
def scanFiles (setup : ScanSetup σ) (schedule : List Nat) (files : List (List Text))
    (cache : RuleCache σ) : Except ScanError (List (List Finding)) × RuleCache σ :=
  let p := runSchedule setup schedule ⟨files.map fun parts => (parts, .unread), cache, none⟩
  match p.firstError with
  | some e => (.error e, p.cache)
  | none => finishTasks setup p.tasks p.cache

/-! ### Files that the linter ignores -/

def collect {ε α : Type} : List (Except ε α) → Except ε (List α)
  | [] => .ok []
  | .error e :: _ => .error e
  | .ok a :: results => (collect results).map fun rest => a :: rest

/-- The files that an ignore check keeps. -/
def keptFiles (files : List (List Text)) (ignored : List Bool) : List (List Text) :=
  (files.zip ignored).filterMap fun entry => if entry.2 then none else some entry.1

/-- What an ignore check tells: how many files it dropped, if any. -/
def ignoreNotices (files kept : List (List Text)) : List Notice :=
  if kept.length = files.length then []
  else [.ignoredByLinter (files.length - kept.length) files.length]

/-- The files that the linter does not ignore, asked for all at once, and its books. -/
def filterIgnored (linter : Linter σ) (project : Project) (files : List (List Text)) (books : σ) :
    Except ScanError (List (List Text)) × σ :=
  let r := linter.checkIgnored (files.map project.root.below) books
  (match collect r.1 with
    | .error failure => .error (.linter failure)
    | .ok ignored => .ok (keptFiles files ignored),
    r.2)

end Scan

/-! ### A whole scan -/

/-- What came of a scan: its result, what it told, the files whose ignore check was asked for, and
the rules that were fetched. -/
structure ScanOutcome (σ : Type) where
  result : Except ScanError Verdict
  notices : List Notice
  checked : List (List Text)
  cache : RuleCache σ

namespace ScanSetup

variable {σ : Type}

def run (setup : ScanSetup σ) (schedule : List Nat) (cache : RuleCache σ) : ScanOutcome σ :=
  let options := setup.config.discoveryOptions
  let (files, notices) := discover options setup.project
  let kept := Scan.filterIgnored setup.linter setup.project files cache.books
  let cache := { cache with books := kept.2 }
  match kept.1 with
  | .error e => ⟨.error e, notices, files, cache⟩
  | .ok keptFiles =>
    let notices := notices ++ Scan.ignoreNotices files keptFiles
    let r := Scan.scanFiles setup schedule keptFiles cache
    match r.1 with
    | .error e => ⟨.error e, notices, files, r.2⟩
    | .ok perFile =>
      let verdict := Verdict.ofFiles perFile keptFiles.length
      let summary := Notice.scanned keptFiles.length verdict.errorCount verdict.warningCount
      ⟨.ok verdict, notices ++ [summary], files, r.2⟩

end ScanSetup

def Scan.loadError : Allowlist.LoadFault → ScanError
  | .pathRefused fault => .pathRefused fault
  | .tooDeep => .documentTooDeep

def scanProject {σ : Type} (project : Project) (linter : Linter σ) (config : ScanConfig)
    (schedule : List Nat) (books : σ) (limit : Nat := Json.nestingLimit) : ScanOutcome σ :=
  match Allowlist.load project config.allowlistName limit with
  | .error fault => ⟨.error (Scan.loadError fault), [], [], RuleCache.fresh books⟩
  | .ok loaded =>
    let outcome := ScanSetup.run ⟨project, linter, loaded.1, config⟩ schedule (RuleCache.fresh books)
    { outcome with notices := loaded.2 ++ outcome.notices }

end SuppressionAudit

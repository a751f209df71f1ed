import SuppressionAudit.Proofs.Scan.Outcomes

/-!
# Lookups of a scan

Behind the ignore check, a scan asks its linter for nothing but the rules of the files that it keeps. So
two linters whose lookups of these files go along with each other scan alike under every schedule, however
many candidates the files have and in whatever order the tasks take turns: they report the same, fail
alike, and leave books that still go along with each other.
-/

namespace SuppressionAudit

/-- The same scan with another linter. -/
def ScanSetup.withLinter {σ τ : Type} (setup : ScanSetup σ) (linter : Linter τ) : ScanSetup τ :=
  ⟨setup.project, linter, setup.allowlist, setup.config⟩

namespace Scan

/-- The same result, and states that are related. -/
def Alike {α σ τ : Type} (related : σ → τ → Prop) (first : α × σ) (second : α × τ) : Prop :=
  first.1 = second.1 ∧ related first.2 second.2

/-- Lookups of some paths that go along with each other. -/
def LookupsAlike {σ τ : Type} (linter : Linter σ) (other : Linter τ)
    (related : RuleCache σ → RuleCache τ → Prop) (asked : Path → Prop) : Prop :=
  ∀ path, asked path → ∀ c d, related c d →
    Alike related (RuleCache.rulesFor linter path c) (RuleCache.rulesFor other path d)

section

variable {σ τ : Type} {setup : ScanSetup σ} {other : Linter τ} {related : RuleCache σ → RuleCache τ → Prop}
  {asked : Path → Prop} (hlookups : LookupsAlike setup.linter other related asked)

include hlookups

/-! ### One file -/

section OneFile

variable {parts : List Text} (hasked : asked (setup.project.root.below parts)) {c : RuleCache σ}
  {d : RuleCache τ} (hcache : related c d)

include hasked hcache

theorem evaluateOne_alike (candidate : Candidate) :
    Alike related (Evaluation.evaluateOne setup.linter setup.allowlist (fileAt setup.project parts) candidate c)
      (Evaluation.evaluateOne other setup.allowlist (fileAt setup.project parts) candidate d) := by
  unfold Evaluation.evaluateOne
  cases setup.allowlist.exemptsRule candidate.rule with
  | true => exact ⟨rfl, hcache⟩
  | false =>
    obtain ⟨hrules, hafter⟩ := hlookups _ hasked c d hcache
    simp only [Bool.false_eq_true, if_false, RuleCache.severityFor, fileAt]
    refine ⟨?_, hafter⟩
    simp only [hrules]

theorem evaluateAll_alike (todo : List Candidate) :
    Alike related (Evaluation.evaluateAll setup.linter setup.allowlist (fileAt setup.project parts) todo c)
      (Evaluation.evaluateAll other setup.allowlist (fileAt setup.project parts) todo d) := by
  induction todo generalizing c d with
  | nil => exact ⟨rfl, hcache⟩
  | cons candidate todo ih =>
    obtain ⟨hone, hafter⟩ := evaluateOne_alike hlookups hasked hcache candidate
    obtain ⟨hrest, hfinal⟩ := ih hafter
    simp only [Evaluation.evaluateAll, hone]
    cases (Evaluation.evaluateOne other setup.allowlist (fileAt setup.project parts) candidate d).1 with
    | error e => exact ⟨rfl, hafter⟩
    | ok finding => exact ⟨by simp only [hrest], hfinal⟩

theorem takeTurn_alike (task : Task) :
    Alike related (takeTurn setup parts task c) (takeTurn (setup.withLinter other) parts task d) := by
  cases task with
  | unread => exact ⟨rfl, hcache⟩
  | finished result => exact ⟨rfl, hcache⟩
  | evaluating todo found =>
    cases todo with
    | nil => exact ⟨rfl, hcache⟩
    | cons candidate todo =>
      obtain ⟨hone, hafter⟩ := evaluateOne_alike hlookups hasked hcache candidate
      refine ⟨?_, hafter⟩
      simp only [takeTurn, hone]
      rfl

theorem finishTask_alike (task : Task) :
    Alike related (finishTask setup parts task c) (finishTask (setup.withLinter other) parts task d) := by
  have hread : ∀ task ≠ .unread,
      Alike related (finishTask setup parts task c) (finishTask (setup.withLinter other) parts task d) := by
    intro task hne
    cases task with
    | unread => exact absurd rfl hne
    | finished result => exact ⟨rfl, hcache⟩
    | evaluating todo found =>
      obtain ⟨hall, hafter⟩ := evaluateAll_alike hlookups hasked hcache todo
      exact ⟨congrArg (Except.map fun findings => found ++ findings) hall, hafter⟩
  by_cases hunread : task = .unread
  · rw [hunread, finishTask_unread, finishTask_unread]
    exact hread _ (afterReading_ne_unread setup parts)
  · exact hread task hunread

end OneFile

/-! ### All files -/

/-- Two scans that have come equally far. -/
structure ProgressAlike (related : RuleCache σ → RuleCache τ → Prop) (p : Progress σ) (q : Progress τ) :
    Prop where
  tasks : p.tasks = q.tasks
  cache : related p.cache q.cache
  firstError : p.firstError = q.firstError

theorem turnOf_alike {p : Progress σ} {q : Progress τ} (hp : ProgressAlike related p q)
    (hasked : ∀ parts ∈ p.tasks.map Prod.fst, asked (setup.project.root.below parts)) (index : Nat) :
    ProgressAlike related (turnOf setup p index) (turnOf (setup.withLinter other) q index) := by
  unfold turnOf
  rw [← hp.tasks]
  cases htask : p.tasks[index]? with
  | none => exact hp
  | some entry =>
    obtain ⟨parts, task⟩ := entry
    have hfile := hasked parts (List.mem_map_of_mem (List.mem_of_getElem? htask))
    obtain ⟨hturn, hafter⟩ := takeTurn_alike hlookups hfile hp.cache task
    refine ⟨?_, hafter, ?_⟩
    · simp only [hturn]
    · simp only [hturn, hp.firstError]

theorem runSchedule_alike {p : Progress σ} {q : Progress τ} (hp : ProgressAlike related p q)
    (hasked : ∀ parts ∈ p.tasks.map Prod.fst, asked (setup.project.root.below parts)) (schedule : List Nat) :
    ProgressAlike related (runSchedule setup schedule p) (runSchedule (setup.withLinter other) schedule q) := by
  unfold runSchedule
  induction schedule generalizing p q with
  | nil => exact hp
  | cons index schedule ih =>
    refine ih (turnOf_alike hlookups hp hasked index) ?_
    rwa [files_turnOf]

theorem finishTasks_alike {tasks : List (List Text × Task)}
    (hasked : ∀ entry ∈ tasks, asked (setup.project.root.below entry.1)) {c : RuleCache σ} {d : RuleCache τ}
    (hcache : related c d) :
    Alike related (finishTasks setup tasks c) (finishTasks (setup.withLinter other) tasks d) := by
  induction tasks generalizing c d with
  | nil => exact ⟨rfl, hcache⟩
  | cons entry tasks ih =>
    obtain ⟨parts, task⟩ := entry
    obtain ⟨hone, hafter⟩ := finishTask_alike hlookups (hasked _ List.mem_cons_self) hcache task
    obtain ⟨hrest, hfinal⟩ := ih (fun e he => hasked e (List.mem_cons_of_mem _ he)) hafter
    simp only [finishTasks, hone]
    cases (finishTask (setup.withLinter other) parts task d).1 with
    | error e => exact ⟨rfl, hafter⟩
    | ok findings => exact ⟨by simp only [hrest], hfinal⟩

theorem scanFiles_alike {files : List (List Text)}
    (hasked : ∀ parts ∈ files, asked (setup.project.root.below parts)) {c : RuleCache σ} {d : RuleCache τ}
    (hcache : related c d) (schedule : List Nat) :
    Alike related (scanFiles setup schedule files c) (scanFiles (setup.withLinter other) schedule files d) := by
  have hstart : (files.map fun parts => (parts, Task.unread)).map Prod.fst = files := by
    rw [List.map_map]
    exact List.map_id files
  have hend := runSchedule_alike (p := ⟨files.map fun parts => (parts, .unread), c, none⟩)
    (q := ⟨files.map fun parts => (parts, .unread), d, none⟩) hlookups ⟨rfl, hcache, rfl⟩
    (by rwa [hstart]) schedule
  have hfiles := files_runSchedule setup schedule ⟨files.map fun parts => (parts, .unread), c, none⟩
  rw [hstart] at hfiles
  have hrest := finishTasks_alike hlookups
    (fun entry hentry => hasked entry.1 (hfiles ▸ List.mem_map_of_mem hentry)) hend.cache
  unfold scanFiles
  simp only [← hend.tasks, ← hend.firstError]
  cases (runSchedule setup schedule ⟨files.map fun parts => (parts, .unread), c, none⟩).firstError with
  | some e => exact ⟨rfl, hend.cache⟩
  | none => exact hrest

/-! ### Whole scans -/

/-- Scans are alike when their ignore checks are, and their lookups of the files that are kept. -/
theorem run_alike {c : RuleCache σ} {d : RuleCache τ}
    (hchecked : Alike (fun s t => related { c with books := s } { d with books := t })
      (setup.linter.checkIgnored
        ((findSourceFiles setup.config.discoveryOptions setup.project).map setup.project.root.below) c.books)
      (other.checkIgnored
        ((findSourceFiles setup.config.discoveryOptions setup.project).map setup.project.root.below) d.books))
    (hkept : ∀ kept, (filterIgnored setup.linter setup.project
        (findSourceFiles setup.config.discoveryOptions setup.project) c.books).1 = .ok kept →
      ∀ parts ∈ kept, asked (setup.project.root.below parts)) (schedule : List Nat) :
    (setup.run schedule c).result = ((setup.withLinter other).run schedule d).result ∧
      (setup.run schedule c).notices = ((setup.withLinter other).run schedule d).notices ∧
      related (setup.run schedule c).cache ((setup.withLinter other).run schedule d).cache := by
  obtain ⟨hignored, hbooks⟩ := hchecked
  have hfilter : (filterIgnored other setup.project
        (findSourceFiles setup.config.discoveryOptions setup.project) d.books).1
      = (filterIgnored setup.linter setup.project
        (findSourceFiles setup.config.discoveryOptions setup.project) c.books).1 := by
    simp only [filterIgnored, hignored]
  unfold findSourceFiles at hfilter hkept hbooks
  unfold ScanSetup.run
  simp only [show (setup.withLinter other).project = setup.project from rfl,
    show (setup.withLinter other).config = setup.config from rfl,
    show (setup.withLinter other).linter = other from rfl, hfilter]
  cases hfiles : (filterIgnored setup.linter setup.project
      (discover setup.config.discoveryOptions setup.project).1 c.books).1 with
  | error e => exact ⟨rfl, rfl, hbooks⟩
  | ok kept =>
    have hscanned := scanFiles_alike hlookups (hkept kept hfiles) hbooks schedule
    simp only [filterIgnored]
    generalize scanFiles setup schedule kept _ = scanned at hscanned ⊢
    generalize scanFiles (setup.withLinter other) schedule kept _ = also at hscanned ⊢
    obtain ⟨results, after⟩ := scanned
    obtain ⟨rfl, hfinal⟩ := hscanned
    cases also.1 with
    | error e => exact ⟨rfl, rfl, hfinal⟩
    | ok perFile => exact ⟨rfl, rfl, hfinal⟩

end

end Scan

end SuppressionAudit

import SuppressionAudit.Proofs.Linter.Snapshots
import SuppressionAudit.Proofs.Scan.NecessaryFailures
import SuppressionAudit.Proofs.Scan.Sequential

/-!
# The rules that a scan asks for

A linter that notes the files whose rules it is asked for answers as before. What it has noted after a scan
with a verdict are the files that are kept and where rules are needed, each once, in whatever order the
tasks take turns. At no time before has it noted another file, or one twice, and no more has it noted after
a scan that fails, where the tasks that are left are dropped.
-/

namespace SuppressionAudit

variable {σ : Type}

/-- A linter that notes the files whose rules are fetched from it. -/
def Linter.noting (linter : Linter σ) : Linter (σ × List Path) where
  checkIgnored paths books :=
    let r := linter.checkIgnored paths books.1
    (r.1, (r.2, books.2))
  fetchRules path books :=
    let r := linter.fetchRules path books.1
    (r.1, (r.2, books.2 ++ [path]))

namespace RuleCache

/-! ### Questions one after the other -/

/-- The cache behind questions for the rules of files. -/
def asking (linter : Linter σ) (asked : List Path) (cache : RuleCache σ) : RuleCache σ :=
  asked.foldl (fun cache path => (rulesFor linter path cache).2) cache

theorem asking_append (linter : Linter σ) (asked later : List Path) (cache : RuleCache σ) :
    asking linter (asked ++ later) cache = asking linter later (asking linter asked cache) :=
  List.foldl_append

/-- What a linter has noted, and what is held in front of it, when files were asked for in some order. -/
structure Noted (asked : List Path) (cache : RuleCache (σ × List Path)) : Prop where
  books : cache.books.2 = asked.eraseDups
  fetched : cache.fetchedPaths = asked.eraseDups

theorem Noted.rulesFor (linter : Linter σ) {asked : List Path} {cache : RuleCache (σ × List Path)}
    (h : Noted asked cache) (path : Path) : Noted (asked ++ [path]) (rulesFor linter.noting path cache).2 := by
  obtain ⟨hagain, hfirst⟩ := eraseDups_append_singleton asked path
  unfold RuleCache.rulesFor
  cases hanswer : answer? path cache.fetched with
  | some answer =>
    have hknown : path ∈ asked := by
      by_contra hnew
      rw [← List.mem_eraseDups, ← h.fetched] at hnew
      exact absurd (hanswer.symm.trans (answer?_eq_none_iff.2 hnew)) (by simp)
    exact ⟨h.books.trans (hagain hknown).symm, h.fetched.trans (hagain hknown).symm⟩
  | none =>
    have hnew : path ∉ asked := by
      rw [← List.mem_eraseDups, ← h.fetched]
      exact answer?_eq_none_iff.1 hanswer
    constructor
    · rw [hfirst hnew, ← h.books]
      rfl
    · rw [hfirst hnew, ← h.fetched]
      exact List.map_append

/-- A linter notes every file that it is asked for, where it is asked for first. -/
theorem Noted.asking (linter : Linter σ) {asked : List Path} {cache : RuleCache (σ × List Path)}
    (h : Noted asked cache) (later : List Path) : Noted (asked ++ later) (asking linter.noting later cache) := by
  induction later generalizing asked cache with
  | nil =>
    rw [List.append_nil]
    exact h
  | cons path later ih =>
    have hrest := ih (h.rulesFor linter path)
    rwa [List.append_assoc, List.singleton_append] at hrest

theorem Noted.fresh (books : σ) : Noted [] (fresh (books, [])) := ⟨rfl, rfl⟩

end RuleCache

/-! ### One file -/

namespace Evaluation

variable (linter : Linter σ) (allowlist : Allowlist) (file : EvaluatedFile)

theorem evaluateOne_asks (c : Candidate) (cache : RuleCache σ) :
    (evaluateOne linter allowlist file c cache).2
      = RuleCache.asking linter (if allowlist.exemptsRule c.rule then [] else [file.path]) cache := by
  unfold evaluateOne
  split <;> rfl

/-- Candidates of a file ask for its rules, some number of times, unless all their rules are exempt. -/
theorem evaluateAll_asks (todo : List Candidate) (cache : RuleCache σ) :
    ∃ n, (evaluateAll linter allowlist file todo cache).2
        = RuleCache.asking linter (List.replicate n file.path) cache ∧
      (n ≠ 0 ↔ ∃ c ∈ todo, allowlist.exemptsRule c.rule = false) := by
  induction todo generalizing cache with
  | nil => exact ⟨0, rfl, by simp⟩
  | cons c todo ih =>
    cases hexempt : allowlist.exemptsRule c.rule with
    | true =>
      have hskip := evaluateOne_of_exempt hexempt linter file cache
      obtain ⟨n, hn, hiff⟩ := ih cache
      refine ⟨n, ?_, by simp [hiff, hexempt]⟩
      simp only [evaluateAll, hskip, hn]
    | false =>
      have hone := evaluateOne_asks linter allowlist file c cache
      rw [hexempt] at hone
      simp only [evaluateAll]
      cases (evaluateOne linter allowlist file c cache).1 with
      | error e => exact ⟨1, hone, by simp [hexempt]⟩
      | ok finding =>
        obtain ⟨n, hn, -⟩ := ih (evaluateOne linter allowlist file c cache).2
        refine ⟨n + 1, ?_, by simp [hexempt]⟩
        rw [List.replicate_succ, ← List.singleton_append, RuleCache.asking_append]
        rw [hone] at hn ⊢
        exact hn

theorem evaluateFile_noted (candidates : List Candidate) (books : σ) :
    (evaluateFile linter.noting allowlist file candidates (RuleCache.fresh (books, []))).2.books.2
      = if allowlist.exemptsPath file.relative = false ∧
          ∃ c ∈ candidates, allowlist.exemptsRule c.rule = false then [file.path] else [] := by
  unfold evaluateFile
  cases hpath : allowlist.exemptsPath file.relative with
  | true => simp [RuleCache.fresh]
  | false =>
    by_cases hnone : candidates.isEmpty
    · rw [List.isEmpty_iff.1 hnone]
      simp [RuleCache.fresh]
    · obtain ⟨n, hn, hiff⟩ := evaluateAll_asks linter.noting allowlist file candidates
        (RuleCache.fresh (books, []))
      have hnoted := ((RuleCache.Noted.fresh books).asking linter (List.replicate n file.path)).books
      simp only [hnone, Bool.false_or, Bool.false_eq_true, if_false, true_and, ← hiff, hn, hnoted]
      cases n with
      | zero => rfl
      | succ n => simp [List.replicate_succ, List.eraseDups_cons]

end Evaluation

/-! ### The questions of a task -/

namespace Scan

/-- Whether a task will ask for the rules of its file. -/
def Due (setup : ScanSetup σ) (parts : List Text) : Task → Prop
  | .unread => NeedsRules setup parts
  | .evaluating todo _ => ∃ c ∈ todo, setup.allowlist.exemptsRule c.rule = false
  | .finished _ => False

theorem due_afterReading (setup : ScanSetup σ) (parts : List Text) :
    Due setup parts (afterReading setup parts) ↔ NeedsRules setup parts := by
  unfold afterReading
  cases hread : readSource setup.project parts with
  | error e =>
    refine iff_of_false id ?_
    rintro ⟨-, content, hcontent, -⟩
    cases hread.symm.trans hcontent
  | ok content =>
    cases hexempt : setup.allowlist.exemptsPath (Path.relativeText parts) with
    | true => exact iff_of_false id fun hneeds => Bool.noConfusion (hexempt.symm.trans hneeds.1)
    | false =>
      simp only [Bool.false_eq_true, if_false, Due, NeedsRules, hexempt, hread, true_and]
      simp [Candidate.ofSuppression]

/-- A turn of a task asks for the rules of its file, or does not. -/
theorem takeTurn_asks (setup : ScanSetup σ) (parts : List Text) (task : Task) (cache : RuleCache σ) :
    ∃ n, (takeTurn setup parts task cache).2
        = RuleCache.asking setup.linter (List.replicate n (setup.project.root.below parts)) cache ∧
      (Due setup parts task ↔ n ≠ 0 ∨ Due setup parts (takeTurn setup parts task cache).1) := by
  cases task with
  | unread => exact ⟨0, rfl, (due_afterReading setup parts).symm.trans (by simp [takeTurn])⟩
  | finished result => exact ⟨0, rfl, by simp [takeTurn]⟩
  | evaluating todo found =>
    cases todo with
    | nil => exact ⟨0, rfl, by simp [takeTurn, Due]⟩
    | cons c todo =>
      have hone := Evaluation.evaluateOne_asks setup.linter setup.allowlist (fileAt setup.project parts) c cache
      cases hexempt : setup.allowlist.exemptsRule c.rule with
      | true =>
        rw [hexempt] at hone
        refine ⟨0, hone, ?_⟩
        simp [takeTurn, Evaluation.evaluateOne_of_exempt hexempt, hexempt, Due]
      | false =>
        rw [hexempt] at hone
        exact ⟨1, hone, by simp [Due, hexempt]⟩

theorem finishTask_asks (setup : ScanSetup σ) (parts : List Text) (task : Task) (cache : RuleCache σ) :
    ∃ n, (finishTask setup parts task cache).2
        = RuleCache.asking setup.linter (List.replicate n (setup.project.root.below parts)) cache ∧
      (Due setup parts task ↔ n ≠ 0) := by
  have hread : ∀ task ≠ .unread, ∃ n, (finishTask setup parts task cache).2
        = RuleCache.asking setup.linter (List.replicate n (setup.project.root.below parts)) cache ∧
      (Due setup parts task ↔ n ≠ 0) := by
    intro task hne
    cases task with
    | unread => exact absurd rfl hne
    | finished result => exact ⟨0, rfl, by simp [Due]⟩
    | evaluating todo found =>
      obtain ⟨n, hn, hiff⟩ := Evaluation.evaluateAll_asks setup.linter setup.allowlist (fileAt setup.project parts)
        todo cache
      exact ⟨n, hn, hiff.symm⟩
  by_cases hunread : task = .unread
  · obtain ⟨n, hn, hiff⟩ := hread _ (afterReading_ne_unread setup parts)
    rw [hunread, finishTask_unread]
    exact ⟨n, hn, (due_afterReading setup parts).symm.trans hiff⟩
  · exact hread task hunread

/-! ### The questions of a scan -/

/-- How far the tasks of some files have come with what they ask for. Only where rules are needed are they asked
for, and where they are needed they have been asked for or still will be. -/
structure Asking (setup : ScanSetup σ) (files : List (List Text)) (start : RuleCache σ) (asked : List Path)
    (p : Progress σ) : Prop where
  files_eq : p.tasks.map Prod.fst = files
  cache : p.cache = RuleCache.asking setup.linter asked start
  needed : ∀ path ∈ asked, ∃ parts ∈ files, NeedsRules setup parts ∧ path = setup.project.root.below parts
  due : ∀ entry ∈ p.tasks, Due setup entry.1 entry.2 → NeedsRules setup entry.1
  settled : ∀ entry ∈ p.tasks, NeedsRules setup entry.1 →
    Due setup entry.1 entry.2 ∨ setup.project.root.below entry.1 ∈ asked

variable {setup : ScanSetup σ} {files : List (List Text)} {start : RuleCache σ} {asked : List Path}
  {p : Progress σ}

theorem Asking.initial (setup : ScanSetup σ) (files : List (List Text)) (start : RuleCache σ) :
    Asking setup files start [] ⟨files.map fun parts => (parts, .unread), start, none⟩ := by
  refine ⟨?_, rfl, by simp, ?_, ?_⟩
  · rw [List.map_map]
    exact List.map_id files
  · intro entry hentry hdue
    obtain ⟨parts, -, rfl⟩ := List.mem_map.1 hentry
    exact hdue
  · intro entry hentry hneeds
    obtain ⟨parts, -, rfl⟩ := List.mem_map.1 hentry
    exact .inl hneeds

theorem Asking.turnOf (h : Asking setup files start asked p) (index : Nat) :
    ∃ later, Asking setup files start (asked ++ later) (turnOf setup p index) := by
  unfold Scan.turnOf
  cases htask : p.tasks[index]? with
  | none =>
    refine ⟨[], ?_⟩
    rw [List.append_nil]
    exact h
  | some entry =>
    obtain ⟨parts, task⟩ := entry
    have hmem : (parts, task) ∈ p.tasks := List.mem_of_getElem? htask
    obtain ⟨n, hn, hdue⟩ := takeTurn_asks setup parts task p.cache
    refine ⟨List.replicate n (setup.project.root.below parts), ?_⟩
    constructor
    · exact (files_set htask _).trans h.files_eq
    · rw [RuleCache.asking_append, ← h.cache]
      exact hn
    · intro path hpath
      rcases List.mem_append.1 hpath with hpath | hpath
      · exact h.needed path hpath
      · obtain ⟨hne, rfl⟩ := List.mem_replicate.1 hpath
        have hfile : parts ∈ files := h.files_eq ▸ List.mem_map_of_mem hmem
        exact ⟨parts, hfile, h.due _ hmem (hdue.2 (.inl hne)), rfl⟩
    · intro entry hentry hentryDue
      rcases List.mem_or_eq_of_mem_set hentry with hold | rfl
      · exact h.due entry hold hentryDue
      · exact h.due (parts, task) hmem (hdue.2 (.inr hentryDue))
    · intro entry hentry hneeds
      have hkeep : setup.project.root.below entry.1 ∈ asked →
          setup.project.root.below entry.1 ∈ asked ++ List.replicate n (setup.project.root.below parts) :=
        List.mem_append_left _
      rcases List.mem_or_eq_of_mem_set hentry with hold | rfl
      · exact (h.settled entry hold hneeds).imp_right hkeep
      · rcases h.settled (parts, task) hmem hneeds with hwas | hasked
        · rcases hdue.1 hwas with hne | hstill
          · exact .inr (List.mem_append_right _ (List.mem_replicate.2 ⟨hne, rfl⟩))
          · exact .inl hstill
        · exact .inr (hkeep hasked)

theorem Asking.runSchedule (h : Asking setup files start asked p) (schedule : List Nat) :
    ∃ later, Asking setup files start (asked ++ later) (runSchedule setup schedule p) := by
  unfold Scan.runSchedule
  induction schedule generalizing asked p with
  | nil =>
    refine ⟨[], ?_⟩
    rw [List.append_nil]
    exact h
  | cons index schedule ih =>
    obtain ⟨now, hnow⟩ := h.turnOf index
    obtain ⟨later, hlater⟩ := ih hnow
    rw [List.append_assoc] at hlater
    exact ⟨now ++ later, hlater⟩

/-- Tasks that are finished ask only for rules that are due, and for all of these if none fails. -/
theorem finishTasks_asks (setup : ScanSetup σ) (tasks : List (List Text × Task)) (cache : RuleCache σ) :
    ∃ asked, (finishTasks setup tasks cache).2 = RuleCache.asking setup.linter asked cache ∧
      (∀ path ∈ asked, ∃ entry ∈ tasks, Due setup entry.1 entry.2 ∧ path = setup.project.root.below entry.1) ∧
      ∀ perFile, (finishTasks setup tasks cache).1 = .ok perFile →
        ∀ entry ∈ tasks, Due setup entry.1 entry.2 → setup.project.root.below entry.1 ∈ asked := by
  induction tasks generalizing cache with
  | nil => exact ⟨[], rfl, by simp, by simp⟩
  | cons entry tasks ih =>
    obtain ⟨parts, task⟩ := entry
    obtain ⟨n, hn, hdue⟩ := finishTask_asks setup parts task cache
    have hown : ∀ path ∈ List.replicate n (setup.project.root.below parts),
        ∃ entry ∈ (parts, task) :: tasks, Due setup entry.1 entry.2 ∧
          path = setup.project.root.below entry.1 := by
      intro path hpath
      obtain ⟨hne, rfl⟩ := List.mem_replicate.1 hpath
      exact ⟨(parts, task), List.mem_cons_self, hdue.2 hne, rfl⟩
    cases hone : (finishTask setup parts task cache).1 with
    | error e =>
      refine ⟨List.replicate n (setup.project.root.below parts), ?_, hown, ?_⟩
      · simp only [finishTasks, hone, hn]
      · intro perFile hok
        simp [finishTasks, hone] at hok
    | ok findings =>
      obtain ⟨later, hlater, hneeded, hall⟩ := ih (finishTask setup parts task cache).2
      refine ⟨List.replicate n (setup.project.root.below parts) ++ later, ?_, ?_, ?_⟩
      · simp only [finishTasks, hone]
        rw [RuleCache.asking_append, ← hn, ← hlater]
      · intro path hpath
        rcases List.mem_append.1 hpath with hpath | hpath
        · exact hown path hpath
        · obtain ⟨entry, hentry, hrest⟩ := hneeded path hpath
          exact ⟨entry, List.mem_cons_of_mem _ hentry, hrest⟩
      · intro perFile hok entry hentry hentryDue
        simp only [finishTasks, hone] at hok
        rcases List.mem_cons.1 hentry with rfl | hentry
        · exact List.mem_append_left _ (List.mem_replicate.2 ⟨hdue.1 hentryDue, rfl⟩)
        · cases hrest : (finishTasks setup tasks (finishTask setup parts task cache).2).1 with
          | error e => simp [hrest, Except.map] at hok
          | ok rest => exact List.mem_append_right _ (hall rest hrest entry hentry hentryDue)

/-- Whatever the schedule, the tasks of some files ask only for the rules of those where they are needed,
and for all of these if none fails. -/
theorem scanFiles_asks (setup : ScanSetup σ) (schedule : List Nat) (files : List (List Text))
    (cache : RuleCache σ) :
    ∃ asked, (scanFiles setup schedule files cache).2 = RuleCache.asking setup.linter asked cache ∧
      (∀ path ∈ asked, ∃ parts ∈ files, NeedsRules setup parts ∧ path = setup.project.root.below parts) ∧
      ∀ perFile, (scanFiles setup schedule files cache).1 = .ok perFile →
        ∀ parts ∈ files, NeedsRules setup parts → setup.project.root.below parts ∈ asked := by
  obtain ⟨asked, hasking⟩ := (Asking.initial setup files cache).runSchedule schedule
  rw [List.nil_append] at hasking
  unfold scanFiles
  generalize Scan.runSchedule setup schedule ⟨files.map fun parts => (parts, .unread), cache, none⟩ = p
    at hasking
  cases hfirst : p.firstError with
  | some e => exact ⟨asked, by simp only [hfirst, hasking.cache], hasking.needed, by simp [hfirst]⟩
  | none =>
    obtain ⟨later, hlater, hneeded, hall⟩ := finishTasks_asks setup p.tasks p.cache
    simp only [hfirst]
    refine ⟨asked ++ later, ?_, ?_, ?_⟩
    · rw [RuleCache.asking_append, ← hasking.cache, ← hlater]
    · intro path hpath
      rcases List.mem_append.1 hpath with hpath | hpath
      · exact hasking.needed path hpath
      · obtain ⟨entry, hentry, hdue, rfl⟩ := hneeded path hpath
        exact ⟨entry.1, hasking.files_eq ▸ List.mem_map_of_mem hentry, hasking.due entry hentry hdue, rfl⟩
    · intro perFile hok parts hparts hneeds
      rw [← hasking.files_eq] at hparts
      obtain ⟨entry, hentry, rfl⟩ := List.mem_map.1 hparts
      rcases hasking.settled entry hentry hneeds with hdue | hasked
      · exact List.mem_append_right _ (hall perFile hok entry hentry hdue)
      · exact List.mem_append_left _ hasked

/-! ### Whole scans -/

theorem mem_keptFiles {files : List (List Text)} {answers : List Bool} {parts : List Text} :
    parts ∈ keptFiles files answers ↔ (parts, false) ∈ files.zip answers := by
  unfold keptFiles
  rw [List.mem_filterMap]
  constructor
  · rintro ⟨⟨other, ignored⟩, hentry, hsome⟩
    cases ignored with
    | true => cases hsome
    | false =>
      obtain rfl := Option.some.inj hsome
      exact hentry
  · exact fun hentry => ⟨(parts, false), hentry, rfl⟩

/-- A source file that the linter does not ignore, where it tells of every source file whether it does. -/
def Kept (setup : ScanSetup σ) (books : σ) (parts : List Text) : Prop :=
  ∃ answers : List Bool,
    (setup.linter.checkIgnored ((findSourceFiles setup.config.discoveryOptions setup.project).map
      setup.project.root.below) books).1 = answers.map Except.ok ∧
    (parts, false) ∈ (findSourceFiles setup.config.discoveryOptions setup.project).zip answers

theorem kept_iff {books : σ} {parts : List Text} :
    Kept setup books parts ↔ ∃ kept, (filterIgnored setup.linter setup.project
      (findSourceFiles setup.config.discoveryOptions setup.project) books).1 = .ok kept ∧ parts ∈ kept := by
  unfold Kept filterIgnored
  constructor
  · rintro ⟨answers, hanswers, hmem⟩
    exact ⟨_, by simp only [collect_eq_ok_iff.2 hanswers], mem_keptFiles.2 hmem⟩
  · rintro ⟨kept, hkept, hmem⟩
    dsimp only at hkept
    split at hkept
    · cases hkept
    · next answers hcollect =>
      obtain rfl := Except.ok.inj hkept
      exact ⟨answers, collect_eq_ok_iff.1 hcollect, mem_keptFiles.1 hmem⟩

theorem run_asks (setup : ScanSetup σ) (schedule : List Nat) (books : σ) :
    ∃ asked, (setup.run schedule (RuleCache.fresh books)).cache
        = RuleCache.asking setup.linter asked (RuleCache.fresh (filterIgnored setup.linter setup.project
            (findSourceFiles setup.config.discoveryOptions setup.project) books).2) ∧
      (∀ path ∈ asked,
        ∃ parts, Kept setup books parts ∧ NeedsRules setup parts ∧ path = setup.project.root.below parts) ∧
      ∀ verdict, (setup.run schedule (RuleCache.fresh books)).result = .ok verdict →
        ∀ parts, Kept setup books parts → NeedsRules setup parts → setup.project.root.below parts ∈ asked := by
  simp only [kept_iff]
  unfold findSourceFiles ScanSetup.run
  simp only [RuleCache.fresh]
  cases hkept : (filterIgnored setup.linter setup.project
      (discover setup.config.discoveryOptions setup.project).1 books).1 with
  | error e => exact ⟨[], rfl, by simp, by simp⟩
  | ok kept =>
    obtain ⟨asked, hasked, hneeded, hall⟩ := scanFiles_asks setup schedule kept
      ⟨(filterIgnored setup.linter setup.project
        (discover setup.config.discoveryOptions setup.project).1 books).2, []⟩
    refine ⟨asked, ?_, ?_, ?_⟩
    · rw [← hasked]
      dsimp only
      split <;> rfl
    · intro path hpath
      obtain ⟨parts, hparts, hneeds, rfl⟩ := hneeded path hpath
      exact ⟨parts, ⟨kept, rfl, hparts⟩, hneeds, rfl⟩
    · rintro verdict hok parts ⟨others, hothers, hparts⟩ hneeds
      obtain rfl := Except.ok.inj hothers
      dsimp only at hok
      split at hok
      · cases hok
      · next perFile hperFile => exact hall perFile hperFile parts hparts hneeds

/-! ### Noted scans -/

/-- Noting makes no difference to what is answered. -/
theorem rulesFor_noting (linter : Linter σ) :
    LookupsAlike linter.noting linter (fun c d => c.books.1 = d.books ∧ c.fetched = d.fetched) fun _ => True := by
  rintro path - c d ⟨hbooks, hfetched⟩
  unfold RuleCache.rulesFor
  rw [hfetched]
  cases RuleCache.answer? path d.fetched with
  | some answer => exact ⟨rfl, hbooks, hfetched⟩
  | none => simp only [Alike, Linter.noting, hbooks, and_self]

theorem result_noting (setup : ScanSetup σ) (schedule : List Nat) (books : σ) :
    ((setup.withLinter setup.linter.noting).run schedule (RuleCache.fresh (books, []))).result
      = (setup.run schedule (RuleCache.fresh books)).result := by
  let noted := setup.withLinter setup.linter.noting
  have hlookups : LookupsAlike noted.linter setup.linter
      (fun c d => c.books.1 = d.books ∧ c.fetched = d.fetched) fun _ => True := rulesFor_noting setup.linter
  exact (run_alike hlookups ⟨rfl, rfl, rfl⟩ (fun _ _ _ _ => trivial) schedule).1

end Scan

open Scan

/-- The linter is asked for the rules of a file once if neither the file nor the rule of some candidate in it is
exempt, and else not at all. In a scan with a verdict these are the rules of the files that are kept and where
rules are needed, in whatever order the tasks take turns. No other file's are asked for and no file's twice while
a scan lasts, and so after one that fails, which need not have asked for all of them. -/
theorem rules_asked_where_needed :
    (∀ (σ : Type) (linter : Linter σ) (books : σ) (allowlist : Allowlist) (file : EvaluatedFile)
      (candidates : List Candidate),
      (Evaluation.evaluateFile linter.noting allowlist file candidates (RuleCache.fresh (books, []))).2.books.2
        = if allowlist.exemptsPath file.relative = false ∧
            ∃ c ∈ candidates, allowlist.exemptsRule c.rule = false then [file.path] else []) ∧
    ∀ (σ : Type) (setup : ScanSetup σ) (books : σ) (schedule : List Nat),
      let noted := setup.withLinter setup.linter.noting
      let outcome := noted.run schedule (RuleCache.fresh (books, []))
      outcome.result = (setup.run schedule (RuleCache.fresh books)).result ∧
      outcome.cache.books.2.Nodup ∧
      (∀ path ∈ outcome.cache.books.2,
        ∃ parts, Kept setup books parts ∧ NeedsRules setup parts ∧ path = setup.project.root.below parts) ∧
      (∀ verdict, outcome.result = .ok verdict → ∀ path, path ∈ outcome.cache.books.2 ↔
        ∃ parts, Kept setup books parts ∧ NeedsRules setup parts ∧ path = setup.project.root.below parts) ∧
      ∀ files : List (List Text),
        let p := runSchedule noted schedule
          ⟨files.map fun parts => (parts, .unread), RuleCache.fresh (books, []), none⟩
        p.cache.books.2.Nodup ∧
        ∀ path ∈ p.cache.books.2,
          ∃ parts ∈ files, NeedsRules setup parts ∧ path = setup.project.root.below parts := by
  refine ⟨fun σ linter books allowlist file candidates => ?_, fun σ setup books schedule => ?_⟩
  · exact Evaluation.evaluateFile_noted linter allowlist file candidates books
  intro noted outcome
  refine ⟨result_noting setup schedule books, ?_⟩
  obtain ⟨asked, hasked, hneeded, hall⟩ := run_asks noted schedule (books, [])
  have hlog : outcome.cache.books.2 = asked.eraseDups := by
    have hnoted := (RuleCache.Noted.fresh (filterIgnored setup.linter setup.project
      (findSourceFiles setup.config.discoveryOptions setup.project) books).2).asking setup.linter asked
    exact (congrArg (fun cache => cache.books.2) hasked).trans hnoted.books
  have honly : ∀ path ∈ outcome.cache.books.2,
      ∃ parts, Kept setup books parts ∧ NeedsRules setup parts ∧ path = setup.project.root.below parts := by
    intro path hpath
    rw [hlog, List.mem_eraseDups] at hpath
    exact hneeded path hpath
  refine ⟨hlog ▸ nodup_eraseDups asked, honly, fun verdict hok path => ⟨honly path, ?_⟩, fun files => ?_⟩
  · rintro ⟨parts, hkept, hneeds, rfl⟩
    rw [hlog, List.mem_eraseDups]
    exact hall verdict hok parts hkept hneeds
  · intro p
    obtain ⟨sofar, hsofar⟩ := (Asking.initial noted files (RuleCache.fresh (books, []))).runSchedule schedule
    rw [List.nil_append] at hsofar
    have hlog : p.cache.books.2 = sofar.eraseDups := by
      have hnoted := (RuleCache.Noted.fresh books).asking setup.linter sofar
      exact (congrArg (fun cache => cache.books.2) hsofar.cache).trans hnoted.books
    rw [hlog]
    exact ⟨nodup_eraseDups sofar, fun path hpath => hsofar.needed path (List.mem_eraseDups.1 hpath)⟩

/-- Of the files of a scan with a verdict, the exempt one is not asked for. -/
theorem rules_asked_where_needed_small :
    let outcome := (smallSetup.withLinter smallSetup.linter.noting).run [1, 0, 2, 1, 7, 1, 0]
      (RuleCache.fresh ((), []))
    (∃ verdict, outcome.result = .ok verdict) ∧
    smallProject.root.below ["a.js".toList] ∈ outcome.cache.books.2 ∧
    smallProject.root.below ["gen".toList, "c.js".toList] ∉ outcome.cache.books.2 := by
  intro outcome
  have hfiles : findSourceFiles smallSetup.config.discoveryOptions smallSetup.project
      = [["a.js".toList], ["b.js".toList], ["gen".toList, "c.js".toList], ["m.js".toList]] := by decide +kernel
  have hkept : Kept smallSetup () ["a.js".toList] := by
    refine ⟨[false, false, false, true], ?_, ?_⟩
    · rw [hfiles]
      rfl
    · rw [hfiles]
      decide
  have hneeds : NeedsRules smallSetup ["a.js".toList] := by
    refine ⟨by decide +kernel, _, readSource_small_a, by decide +kernel⟩
  have hexempt : smallSetup.allowlist.exemptsPath (Path.relativeText ["gen".toList, "c.js".toList]) = true := by
    decide +kernel
  have hplain : (smallSetup.run [1, 0, 2, 1, 7, 1, 0] (RuleCache.fresh ())).result = .ok _ :=
    run_of_nothingFails (Linter.ofFunctions_answersFrom _ _) trivial nothingFails_small _
  obtain ⟨-, hscans⟩ := rules_asked_where_needed
  obtain ⟨hsame, -, honly, hall, -⟩ := hscans Unit smallSetup () [1, 0, 2, 1, 7, 1, 0]
  have hverdict := hsame.trans hplain
  refine ⟨⟨_, hverdict⟩, (hall _ hverdict _).2 ⟨_, hkept, hneeds, rfl⟩, fun hasked => ?_⟩
  obtain ⟨parts, -, hneeds, hpath⟩ := honly _ hasked
  obtain rfl : ["gen".toList, "c.js".toList] = parts := List.append_cancel_left (congrArg Path.parts hpath)
  exact absurd (hexempt.symm.trans hneeds.1) (by decide)

end SuppressionAudit

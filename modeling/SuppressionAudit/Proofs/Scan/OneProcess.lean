import SuppressionAudit.Proofs.Discovery.Disks
import SuppressionAudit.Proofs.Linter.AcceptedAnswers
import SuppressionAudit.Proofs.Linter.OneBatch
import SuppressionAudit.Proofs.Scan.Lookups

/-!
# One process serves a scan

The ignore check of a scan asks for every source file at once, so one process is started for all of them.
It answers both questions for a file. If it fails, so does the scan. Otherwise every lookup of rules that
the tasks make is answered from what it told: the scan does what it would do with a linter that knows these
answers by heart, and no second process is started, whatever the files contain and whose turn it is. A
scan that fails with its process tells a failure of the linter, but for the three that are passed on: an
executable that the system refuses to start though it is there, an output that is no text, and one that is
nested too deep.
-/

namespace SuppressionAudit

/-- The answer for a path among answers. -/
def Batching.answerIn (answered : List (Path × LinterAnswer)) (path : Path) : LinterAnswer :=
  (Batching.valueOf? path answered).getD ⟨false, []⟩

namespace Scan

/-! ### Linters whose answers are known -/

/-- A linter that knows its answers by heart. -/
def knowing (answer : Path → LinterAnswer) : Linter Unit :=
  Linter.ofFunctions (fun path => (answer path).ignored) fun path => .ok (answer path).rules

/-- The paths that a scan asks about. -/
def askedPaths {σ : Type} (setup : ScanSetup σ) : List Path :=
  (findSourceFiles setup.config.discoveryOptions setup.project).map setup.project.root.below

/-- A cache of rules that came from answers for files that are kept, while the books stay as they are. -/
structure CameFrom {σ : Type} (answer : Path → LinterAnswer) (asked : List Path) (books : σ)
    (c : RuleCache σ) (d : RuleCache Unit) : Prop where
  books_eq : c.books = books
  fetched_eq : c.fetched = d.fetched
  entries : ∀ entry ∈ c.fetched,
    entry.1 ∈ asked ∧ (answer entry.1).ignored = false ∧ entry.2 = .ok (answer entry.1).rules

theorem lookups_cameFrom {σ : Type} {linter : Linter σ} {answer : Path → LinterAnswer} {asked : List Path}
    {books : σ} (h : ∀ path ∈ asked, linter.fetchRules path books = (.ok (answer path).rules, books)) :
    LookupsAlike linter (knowing answer) (CameFrom answer asked books)
      fun path => path ∈ asked ∧ (answer path).ignored = false := by
  rintro path ⟨hpath, hkept⟩ c d hcache
  unfold RuleCache.rulesFor
  rw [← hcache.fetched_eq]
  -- both caches have the answer, or both linters are asked for it and give the same one
  cases RuleCache.answer? path c.fetched with
  | some answered => exact ⟨rfl, hcache⟩
  | none =>
    rw [hcache.books_eq, h path hpath]
    refine ⟨rfl, rfl, ?_, fun entry hentry => ?_⟩
    · rw [hcache.fetched_eq]
      rfl
    · rcases List.mem_append.1 hentry with hold | hnew
      · exact hcache.entries entry hold
      · rw [List.mem_singleton.1 hnew]
        exact ⟨hpath, hkept, rfl⟩

/-- A linter whose books hold the answers after the ignore check. -/
theorem run_knowing {σ : Type} (setup : ScanSetup σ) {answer : Path → LinterAnswer} {before after : σ}
    (hchecked : setup.linter.checkIgnored (askedPaths setup) before
      = ((askedPaths setup).map fun path => .ok (answer path).ignored, after))
    (hlookups : ∀ path ∈ askedPaths setup,
      setup.linter.fetchRules path after = (.ok (answer path).rules, after)) (schedule : List Nat) :
    (setup.run schedule (RuleCache.fresh before)).result
        = ((setup.withLinter (knowing answer)).run schedule (RuleCache.fresh ())).result ∧
      (setup.run schedule (RuleCache.fresh before)).notices
        = ((setup.withLinter (knowing answer)).run schedule (RuleCache.fresh ())).notices ∧
      CameFrom answer (askedPaths setup) after (setup.run schedule (RuleCache.fresh before)).cache
        ((setup.withLinter (knowing answer)).run schedule (RuleCache.fresh ())).cache := by
  have hignored : (setup.linter.checkIgnored (askedPaths setup) before).1
      = (findSourceFiles setup.config.discoveryOptions setup.project).map
        fun parts => .ok (answer (setup.project.root.below parts)).ignored := by
    rw [hchecked, askedPaths, List.map_map]
    rfl
  refine run_alike (lookups_cameFrom hlookups) ⟨?_, ?_⟩ ?_ schedule
  · exact congrArg Prod.fst hchecked
  · exact ⟨congrArg Prod.snd hchecked, rfl, by simp [RuleCache.fresh]⟩
  · intro kept hkept parts hparts
    have hfiltered := filterIgnored_of_answers hignored
    obtain rfl := Except.ok.inj (hkept.symm.trans hfiltered)
    obtain ⟨hfile, hnot⟩ := List.mem_filter.1 hparts
    exact ⟨List.mem_map_of_mem hfile, by simpa using hnot⟩

theorem collect_error {α ε β : Type} {xs : List β} (h : xs ≠ []) (e : ε) :
    collect (xs.map fun _ => (.error e : Except ε α)) = .error e := by
  cases xs with
  | nil => exact absurd rfl h
  | cons x xs => rfl

/-- A linter that fails for every file that the ignore check asks for. -/
theorem run_failing {σ : Type} (setup : ScanSetup σ) {failure : LinterFailure} {before after : σ}
    (hsome : askedPaths setup ≠ [])
    (hchecked : setup.linter.checkIgnored (askedPaths setup) before
      = ((askedPaths setup).map fun _ => .error failure, after)) (schedule : List Nat) :
    (setup.run schedule (RuleCache.fresh before)).result = .error (.linter failure) ∧
      (setup.run schedule (RuleCache.fresh before)).cache = RuleCache.fresh after := by
  have hcollect := collect_error (α := Bool) hsome failure
  unfold askedPaths findSourceFiles at hchecked hcollect
  unfold ScanSetup.run
  simp only [filterIgnored, RuleCache.fresh, hchecked, hcollect]
  exact ⟨trivial, trivial⟩

end Scan

/-! ### The first process -/

namespace ProcessLinter

open Batching

theorem paths_zip {files : List Path} {answers : List LinterAnswer} (h : answers.length = files.length) :
    paths (files.zip answers) = files := List.map_fst_zip h.ge

theorem valueOf?_zip {files : List Path} {answers : List LinterAnswer} (h : answers.length = files.length)
    {path : Path} (hpath : path ∈ files) :
    valueOf? path (files.zip answers) = some (answerIn (files.zip answers) path) := by
  unfold answerIn
  cases hvalue : valueOf? path (files.zip answers) with
  | some answer => rfl
  | none =>
    have habsent := valueOf?_eq_none_iff.1 hvalue
    rw [paths_zip h] at habsent
    exact absurd hpath habsent

theorem map_answerIn {files : List Path} {answers : List LinterAnswer} (hnodup : files.Nodup)
    (h : answers.length = files.length) : files.map (answerIn (files.zip answers)) = answers := by
  refine List.ext_getElem (by simp [h]) fun number hnumber hlt => ?_
  have hfile : number < files.length := h ▸ hlt
  have hmem : (files[number], answers[number]) ∈ files.zip answers := by
    rw [← List.getElem_zip (h := by simpa [h] using hlt)]
    exact List.getElem_mem _
  have hvalue := valueOf?_of_mem (by rwa [paths_zip h]) hmem
  rw [List.getElem_map, answerIn, hvalue]
  rfl

theorem checkIgnored_initial (linter : ProcessLinter) {files : List Path} (hfiles : files ≠ [])
    (hnodup : files.Nodup) :
    linter.toLinter.checkIgnored files ProcessBooks.initial
      = match linter.answersOf 0 files with
        | .error failure => (files.map fun _ => .error failure, ⟨.holding [], [files]⟩)
        | .ok answers => (answers.map fun answer => .ok answer.ignored, ⟨.holding (files.zip answers), [files]⟩) := by
  simp only [toLinter, askGroup_initial linter hfiles hnodup]
  cases linter.answersOf 0 files with
  | error failure =>
    simp only [List.map_map]
    rfl
  | ok answers =>
    simp only [List.map_map]
    rfl

theorem checkIgnored_nil (linter : ProcessLinter) :
    linter.toLinter.checkIgnored [] ProcessBooks.initial = ([], ProcessBooks.initial) := by
  have hheld : ∀ request ∈ ([] : List GroupRequest),
      valueOf? request.path ProcessBooks.initial.batching.results = some (answerIn [] request.path) := by
    simp
  simp only [toLinter, List.map_nil, linter.askGroup_of_held rfl hheld]

theorem fetchRules_of_held (linter : ProcessLinter) {answer : Path → LinterAnswer} {books : ProcessBooks}
    {path : Path} (hflush : books.batching.flushScheduled = false)
    (h : valueOf? path books.batching.results = some (answer path)) :
    linter.toLinter.fetchRules path books = (.ok (answer path).rules, books) := by
  have hheld : ∀ request ∈ [(⟨path, false⟩ : GroupRequest)],
      valueOf? request.path books.batching.results = some (answer request.path) := by
    simpa using h
  simp only [toLinter, linter.askGroup_of_held hflush hheld]
  rfl

end ProcessLinter

namespace Scan

open Batching ProcessLinter

variable {setup : ScanSetup ProcessBooks} {linter : ProcessLinter} (hlinter : setup.linter = linter.toLinter)
  (hnodup : (askedPaths setup).Nodup)

include hlinter

theorem run_without_files (hfiles : askedPaths setup = []) (schedule : List Nat) :
    (setup.run schedule (RuleCache.fresh ProcessBooks.initial)).result
        = ((setup.withLinter (knowing (answerIn []))).run schedule (RuleCache.fresh ())).result ∧
      (setup.run schedule (RuleCache.fresh ProcessBooks.initial)).cache.books = ProcessBooks.initial := by
  have hchecked : setup.linter.checkIgnored (askedPaths setup) ProcessBooks.initial
      = ((askedPaths setup).map fun path => .ok (answerIn [] path).ignored, ProcessBooks.initial) := by
    rw [hlinter, hfiles]
    exact linter.checkIgnored_nil
  obtain ⟨hresult, -, hcache⟩ := run_knowing setup hchecked (by simp [hfiles]) schedule
  exact ⟨hresult, hcache.books_eq⟩

include hnodup

theorem run_of_failed_process (hfiles : askedPaths setup ≠ []) {failure : LinterFailure}
    (hserved : linter.answersOf 0 (askedPaths setup) = .error failure) (schedule : List Nat) :
    (setup.run schedule (RuleCache.fresh ProcessBooks.initial)).result = .error (.linter failure) ∧
      (setup.run schedule (RuleCache.fresh ProcessBooks.initial)).cache
        = RuleCache.fresh ⟨.holding [], [askedPaths setup]⟩ := by
  have hchecked := checkIgnored_initial linter hfiles hnodup
  rw [← hlinter, hserved] at hchecked
  exact run_failing setup hfiles hchecked schedule

theorem run_of_answering_process (hfiles : askedPaths setup ≠ []) {answers : List LinterAnswer}
    (hserved : linter.answersOf 0 (askedPaths setup) = .ok answers) (schedule : List Nat) :
    (setup.run schedule (RuleCache.fresh ProcessBooks.initial)).result
        = ((setup.withLinter (knowing (answerIn ((askedPaths setup).zip answers)))).run schedule
          (RuleCache.fresh ())).result ∧
      (setup.run schedule (RuleCache.fresh ProcessBooks.initial)).notices
        = ((setup.withLinter (knowing (answerIn ((askedPaths setup).zip answers)))).run schedule
          (RuleCache.fresh ())).notices ∧
      CameFrom (answerIn ((askedPaths setup).zip answers)) (askedPaths setup)
        ⟨.holding ((askedPaths setup).zip answers), [askedPaths setup]⟩
        (setup.run schedule (RuleCache.fresh ProcessBooks.initial)).cache
        ((setup.withLinter (knowing (answerIn ((askedPaths setup).zip answers)))).run schedule
          (RuleCache.fresh ())).cache := by
  have hlength := length_ofOutcome hserved
  have hchecked := checkIgnored_initial linter hfiles hnodup
  rw [← hlinter, hserved] at hchecked
  have hignored : answers.map (fun answer => (.ok answer.ignored : Except LinterFailure Bool))
      = (askedPaths setup).map fun path => .ok (answerIn ((askedPaths setup).zip answers) path).ignored := by
    conv_lhs => rw [← map_answerIn hnodup hlength]
    rw [List.map_map]
    rfl
  refine run_knowing setup ?_ (fun path hpath => ?_) schedule
  · rw [hchecked, ← hignored]
  · rw [hlinter]
    exact linter.fetchRules_of_held rfl (valueOf?_zip hlength hpath)

end Scan

open Batching ProcessLinter Scan

/-- One file has a suppression, and the other one is ignored and cannot be read. -/
def flatProject : Project :=
  ⟨⟨['/'], []⟩, ⟨.directory none none
    [("m.js".toList, .file (.error .permissionDenied)),
      ("a.js".toList, .file (.ok (Utf8.encode "// eslint-disable-line semi".toList)))]⟩⟩

end SuppressionAudit

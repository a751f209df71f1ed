import SuppressionAudit.Proofs.Scan.Lookups

/-!
# Necessary failures

A scan whose ignore check succeeds fails when and only when it has to: a file that is kept cannot be read,
were it exempt or not, or rules are needed in such a file and cannot be looked up. Rules are needed in a file
that is not exempt and has a suppression of a rule that is not exempt. Whether the lookup of any other file
would fail makes no difference, and several faults at once give the error of one of them.
-/

namespace SuppressionAudit

namespace Scan

variable {σ : Type} {setup : ScanSetup σ} {rules other : Path → Except LinterFailure Rules} {parts : List Text}
  {content : Text} {e : ScanError}

/-- A file that is not exempt and has a suppression of a rule that is not exempt. -/
def NeedsRules (setup : ScanSetup σ) (parts : List Text) : Prop :=
  setup.allowlist.exemptsPath (Path.relativeText parts) = false ∧
    ∃ content, readSource setup.project parts = .ok content ∧
      ∃ s ∈ extractSuppressions content, setup.allowlist.exemptsRule s.rule = false

/-- The errors that a file gives rise to. No disk has a file whose path is refused for a NUL. -/
inductive FailsBy (setup : ScanSetup σ) (rules : Path → Except LinterFailure Rules) (parts : List Text) :
    ScanError → Prop
  | refused : Path.hasNul parts = true → FailsBy setup rules parts .pathWithNul
  | unreadable {fault : Fault} : Path.hasNul parts = false → setup.project.read parts = .error fault →
      FailsBy setup rules parts (.fileUnreadable (setup.project.pathText parts) fault)
  | lookup {failure : LinterFailure} : NeedsRules setup parts →
      rules (setup.project.root.below parts) = .error failure → FailsBy setup rules parts (.linter failure)

/-! ### One file -/

theorem failsBy_of_readSource (h : readSource setup.project parts = .error e) : FailsBy setup rules parts e := by
  unfold readSource at h
  cases hnul : Path.hasNul parts with
  | true =>
    simp only [hnul, if_true] at h
    obtain rfl := Except.error.inj h
    exact .refused hnul
  | false =>
    cases hread : setup.project.read parts with
    | ok bytes => simp [hnul, hread] at h
    | error fault =>
      simp only [hnul, hread, Bool.false_eq_true, if_false] at h
      obtain rfl := Except.error.inj h
      exact .unreadable hnul hread

theorem needsRules_iff (hread : readSource setup.project parts = .ok content)
    (hexempt : setup.allowlist.exemptsPath (Path.relativeText parts) = false) :
    NeedsRules setup parts
      ↔ ((extractSuppressions content).all fun s => setup.allowlist.exemptsRule s.rule) = false := by
  rw [List.all_eq_false]
  constructor
  · rintro ⟨-, found, hfound, s, hs, hleft⟩
    obtain rfl := Except.ok.inj (hread.symm.trans hfound)
    exact ⟨s, hs, by simp [hleft]⟩
  · rintro ⟨s, hs, hleft⟩
    exact ⟨hexempt, content, hread, s, hs, by simpa using hleft⟩

theorem outcomeOf_eq_error_iff : outcomeOf setup rules parts = .error e ↔ FailsBy setup rules parts e := by
  constructor
  · intro h
    unfold outcomeOf at h
    split at h
    · next fault hread =>
      obtain rfl := Except.error.inj h
      exact failsBy_of_readSource hread
    · next content hread =>
      split at h
      · cases h
      · next hexempt =>
        unfold evaluated at h
        split at h
        · cases h
        · next hall =>
          split at h
          · next failure hrules =>
            obtain rfl := Except.error.inj h
            exact .lookup ((needsRules_iff hread (by simpa using hexempt)).2 (by simpa using hall)) hrules
          · cases h
  · intro h
    cases h with
    | refused hnul => simp [outcomeOf, readSource, hnul]
    | unreadable hnul hread => simp [outcomeOf, readSource, hnul, hread]
    | lookup hneeds hrules =>
      obtain ⟨hexempt, content, hread, -⟩ := id hneeds
      have hall := (needsRules_iff hread hexempt).1 hneeds
      simp only [outcomeOf, hread, hexempt, evaluated, hall, hrules, Bool.false_eq_true, if_false]

theorem lookup_of_failsBy (hread : readSource setup.project parts = .ok content)
    (h : FailsBy setup rules parts e) :
    NeedsRules setup parts ∧ ∃ failure, rules (setup.project.root.below parts) = .error failure ∧
      e = .linter failure := by
  cases h with
  | refused hnul => simp [readSource, hnul] at hread
  | unreadable hnul hfault => simp [readSource, hnul, hfault] at hread
  | lookup hneeds hrules => exact ⟨hneeds, _, hrules, rfl⟩

/-- The outcome of a file depends on its rules only where they are needed. -/
theorem outcomeOf_congr
    (h : NeedsRules setup parts → other (setup.project.root.below parts) = rules (setup.project.root.below parts)) :
    outcomeOf setup other parts = outcomeOf setup rules parts := by
  unfold outcomeOf
  cases hread : readSource setup.project parts with
  | error fault => rfl
  | ok content =>
    cases hexempt : setup.allowlist.exemptsPath (Path.relativeText parts) with
    | true => rfl
    | false =>
      simp only [evaluated, Bool.false_eq_true, if_false]
      cases hall : (extractSuppressions content).all fun s => setup.allowlist.exemptsRule s.rule with
      | true => rfl
      | false => simp only [h ((needsRules_iff hread hexempt).2 hall)]

/-! ### Scans whose ignore check succeeds -/

section

variable {holds : σ → Prop} {ignores : Path → Bool} {books : σ}
  (hlinter : setup.linter.AnswersFrom holds (fun path => .ok (ignores path)) rules) (hbooks : holds books)

include hlinter hbooks

theorem run_eq_ok_iff_outcomes (schedule : List Nat) {verdict : Verdict} :
    (setup.run schedule (RuleCache.fresh books)).result = .ok verdict ↔
      ∃ perFile, (Reference.filesOf setup ignores).map (outcomeOf setup rules) = perFile.map Except.ok ∧
        verdict = Verdict.ofFiles perFile (Reference.filesOf setup ignores).length := by
  rw [run_eq_ok_iff hlinter hbooks]
  constructor
  · rintro ⟨kept, perFile, hkept, houtcomes, hverdict⟩
    obtain rfl := keeps_unique hkept (keeps_filesOf setup ignores)
    exact ⟨perFile, houtcomes, hverdict⟩
  · rintro ⟨perFile, houtcomes, hverdict⟩
    exact ⟨_, perFile, keeps_filesOf setup ignores, houtcomes, hverdict⟩

theorem exists_failsBy_of_run_eq_error {schedule : List Nat}
    (h : (setup.run schedule (RuleCache.fresh books)).result = .error e) :
    ∃ parts ∈ Reference.filesOf setup ignores, FailsBy setup rules parts e := by
  rcases run_cases hlinter hbooks schedule with ⟨kept, perFile, -, -, hresult⟩ |
    ⟨kept, hkept, parts, hparts, first, hfirst, hresult⟩ | ⟨parts, -, failure, herror, -⟩
  · rw [hresult] at h
    cases h
  · obtain rfl := keeps_unique hkept (keeps_filesOf setup ignores)
    obtain rfl := Except.error.inj (hresult.symm.trans h)
    exact ⟨parts, hparts, outcomeOf_eq_error_iff.1 hfirst⟩
  · cases herror

theorem run_eq_error_of_failsBy (schedule : List Nat) (hparts : parts ∈ Reference.filesOf setup ignores)
    (h : FailsBy setup rules parts e) :
    ∃ first, (setup.run schedule (RuleCache.fresh books)).result = .error first := by
  cases hresult : (setup.run schedule (RuleCache.fresh books)).result with
  | error first => exact ⟨first, rfl⟩
  | ok verdict =>
    obtain ⟨perFile, houtcomes, -⟩ := (run_eq_ok_iff_outcomes hlinter hbooks schedule).1 hresult
    obtain ⟨findings, -, hok⟩ := exists_ok_of_map_eq houtcomes hparts
    rw [outcomeOf_eq_error_iff.2 h] at hok
    cases hok

theorem run_eq_ok_iff_of_needed
    (hother : ∀ parts ∈ Reference.filesOf setup ignores, NeedsRules setup parts →
      other (setup.project.root.below parts) = rules (setup.project.root.below parts))
    (schedule again : List Nat) {verdict : Verdict} :
    (setup.run schedule (RuleCache.fresh books)).result = .ok verdict ↔
      ((setup.withLinter (Linter.ofFunctions ignores other)).run again (RuleCache.fresh ())).result
        = .ok verdict := by
  have houtcomes : (Reference.filesOf setup ignores).map (outcomeOf setup other)
      = (Reference.filesOf setup ignores).map (outcomeOf setup rules) :=
    List.map_congr_left fun parts hparts => outcomeOf_congr (hother parts hparts)
  have hknown : (setup.withLinter (Linter.ofFunctions ignores other)).linter.AnswersFrom (fun _ => True)
      (fun path => .ok (ignores path)) other := Linter.ofFunctions_answersFrom ignores other
  rw [run_eq_ok_iff_outcomes hlinter hbooks, run_eq_ok_iff_outcomes hknown trivial, ← houtcomes]
  exact Iff.rfl

end

end Scan

open Scan

/-- A scan fails under a schedule when and only when a file that is kept gives rise to an error, and then it
has the error of one such file. Its verdict is the one that it has with any lookups that agree on the files
where rules are needed. -/
theorem scan_fails_iff_a_file_fails {σ : Type} (setup : ScanSetup σ) (schedule : List Nat) (holds : σ → Prop)
    (ignores : Path → Bool) (rules : Path → Except LinterFailure Rules) (books : σ)
    (hlinter : setup.linter.AnswersFrom holds (fun path => .ok (ignores path)) rules) (hbooks : holds books) :
    let result := (setup.run schedule (RuleCache.fresh books)).result
    let files := Reference.filesOf setup ignores
    ((∃ e, result = .error e) ↔ ∃ parts ∈ files, ∃ e, FailsBy setup rules parts e) ∧
    (∀ e, result = .error e → ∃ parts ∈ files, FailsBy setup rules parts e) ∧
    ((∀ parts ∈ files, Path.hasNul parts = false) → ∀ e, result = .error e →
      (∃ parts ∈ files, ∃ fault, setup.project.read parts = .error fault ∧
        e = .fileUnreadable (setup.project.pathText parts) fault) ∨
      ∃ parts ∈ files, NeedsRules setup parts ∧
        ∃ failure, rules (setup.project.root.below parts) = .error failure ∧ e = .linter failure) ∧
    ∀ other : Path → Except LinterFailure Rules,
      (∀ parts ∈ files, NeedsRules setup parts →
        other (setup.project.root.below parts) = rules (setup.project.root.below parts)) →
      ∀ again verdict, result = .ok verdict ↔
        ((setup.withLinter (Linter.ofFunctions ignores other)).run again (RuleCache.fresh ())).result
          = .ok verdict := by
  intro result files
  have hone : ∀ e, result = .error e → ∃ parts ∈ files, FailsBy setup rules parts e :=
    fun e he => exists_failsBy_of_run_eq_error hlinter hbooks he
  refine ⟨⟨?_, ?_⟩, hone, ?_, ?_⟩
  · rintro ⟨e, he⟩
    obtain ⟨parts, hparts, hfails⟩ := hone e he
    exact ⟨parts, hparts, e, hfails⟩
  · rintro ⟨parts, hparts, e, hfails⟩
    exact run_eq_error_of_failsBy hlinter hbooks schedule hparts hfails
  · intro hnul e he
    obtain ⟨parts, hparts, hfails⟩ := hone e he
    cases hfails with
    | refused hrefused => exact absurd hrefused (by simp [hnul parts hparts])
    | unreadable _ hread => exact .inl ⟨parts, hparts, _, hread, rfl⟩
    | lookup hneeds hrules => exact .inr ⟨parts, hparts, hneeds, _, hrules, rfl⟩
  · intro other hother again verdict
    exact run_eq_ok_iff_of_needed hlinter hbooks hother schedule again

/-- A file is ignored and cannot be read, another one is exempt, and every lookup of rules fails. -/
def lookupless (exemptRules : List Text) : ScanSetup Unit where
  project := ⟨⟨['/'], ["p".toList]⟩, ⟨.directory none none [("p".toList, .directory none none
    [("m.js".toList, .file (.error .permissionDenied)),
      ("a.js".toList, .file (.ok (Utf8.encode "x // eslint-disable-line semi".toList))),
      ("c.js".toList, .file (.ok (Utf8.encode "// eslint-disable-line quotes".toList)))])]⟩⟩
  linter := Linter.ofFunctions (fun path => path.name = "m.js".toList) fun _ => .error .notJson
  allowlist := ⟨exemptRules, ["c*".toList]⟩
  config := ScanConfig.default

theorem scan_fails_iff_a_file_fails_lookupless :
    ((lookupless []).run [1, 0, 0] (RuleCache.fresh ())).result = .error (.linter .notJson) ∧
    ∃ verdict, ((lookupless ["semi".toList]).run [1, 0, 0] (RuleCache.fresh ())).result = .ok verdict := by
  have ha : ∀ exemptRules, readSource (lookupless exemptRules).project ["a.js".toList]
      = .ok "x // eslint-disable-line semi".toList := by
    intro exemptRules
    rfl
  have hc : ∀ exemptRules, readSource (lookupless exemptRules).project ["c.js".toList]
      = .ok "// eslint-disable-line quotes".toList := by
    intro exemptRules
    rfl
  have hfiles : ∀ exemptRules, Reference.filesOf (lookupless exemptRules) (fun path => path.name = "m.js".toList)
      = [["a.js".toList], ["c.js".toList]] := by
    intro exemptRules
    show Reference.filesOf (lookupless []) (fun path => path.name = "m.js".toList) = _
    decide +kernel
  -- whatever is exempt, only a lookup for the first file can fail
  have hblame : ∀ exemptRules e, ((lookupless exemptRules).run [1, 0, 0] (RuleCache.fresh ())).result = .error e →
      NeedsRules (lookupless exemptRules) ["a.js".toList] ∧ e = .linter .notJson := by
    intro exemptRules e he
    obtain ⟨-, hone, -⟩ := scan_fails_iff_a_file_fails (lookupless exemptRules) [1, 0, 0] (fun _ => True)
      (fun path => path.name = "m.js".toList) _ () (Linter.ofFunctions_answersFrom _ _) trivial
    obtain ⟨parts, hparts, hfails⟩ := hone e he
    rw [hfiles, List.mem_cons, List.mem_singleton] at hparts
    rcases hparts with rfl | rfl
    · obtain ⟨hneeds, failure, hfailure, rfl⟩ := lookup_of_failsBy (ha exemptRules) hfails
      obtain rfl := Except.error.inj hfailure
      exact ⟨hneeds, rfl⟩
    · have hneeds := (lookup_of_failsBy (hc exemptRules) hfails).1
      have hexempt : Glob.anyAccepts ["c*".toList] (Path.relativeText ["c.js".toList]) = true := by decide +kernel
      exact absurd (hexempt.symm.trans hneeds.1) (by decide)
  constructor
  · obtain ⟨hiff, -⟩ := scan_fails_iff_a_file_fails (lookupless []) [1, 0, 0] (fun _ => True)
      (fun path => path.name = "m.js".toList) _ () (Linter.ofFunctions_answersFrom _ _) trivial
    have hneeds : NeedsRules (lookupless []) ["a.js".toList] :=
      ⟨by decide +kernel, _, ha [], by decide +kernel⟩
    obtain ⟨e, he⟩ := hiff.2 ⟨["a.js".toList], by rw [hfiles]; exact List.mem_cons_self, _, .lookup hneeds rfl⟩
    rw [he, (hblame [] e he).2]
  · cases hresult : ((lookupless ["semi".toList]).run [1, 0, 0] (RuleCache.fresh ())).result with
    | ok verdict => exact ⟨verdict, rfl⟩
    | error e =>
      have hneeds := (hblame ["semi".toList] e hresult).1
      rw [needsRules_iff (ha _) hneeds.1] at hneeds
      exact absurd hneeds (by decide +kernel)

end SuppressionAudit

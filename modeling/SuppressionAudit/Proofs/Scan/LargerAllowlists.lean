import SuppressionAudit.Proofs.Scan.OneProcess

/-!
# Larger allowlists

An allowlist that exempts more takes findings away and does nothing else. A file that is read is read under
both; where the larger one needs rules, so does the smaller one; and a finding that is left is reported as
before. So a scan that has a verdict has one under every larger allowlist, on as many files, and one that
passes goes on passing.
-/

namespace SuppressionAudit

namespace Allowlist

/-- Each rule and each pattern of an allowlist is in the other one too. -/
structure Within (small large : Allowlist) : Prop where
  rules : small.exemptRules ⊆ large.exemptRules
  paths : small.exemptPaths ⊆ large.exemptPaths

/-- Whether neither the rule of a finding nor its file is exempt. -/
def reports (a : Allowlist) (f : Finding) : Bool := !a.exemptsRule f.rule && !a.exemptsPath f.filePath

variable {small large : Allowlist}

theorem Within.exemptsRule (h : small.Within large) {rule : Text} (hrule : small.exemptsRule rule = true) :
    large.exemptsRule rule = true := by
  have hmem : rule ∈ small.exemptRules := by simpa [Allowlist.exemptsRule] using hrule
  simpa [Allowlist.exemptsRule] using h.rules hmem

theorem Within.exemptsPath (h : small.Within large) {path : Text} (hpath : small.exemptsPath path = true) :
    large.exemptsPath path = true := by
  obtain ⟨pattern, hpattern, haccepts⟩ := List.any_eq_true.1 hpath
  exact List.any_eq_true.2 ⟨pattern, h.paths hpattern, haccepts⟩

end Allowlist

/-- The same scan with another allowlist. -/
def ScanSetup.withAllowlist {σ : Type} (setup : ScanSetup σ) (allowlist : Allowlist) : ScanSetup σ :=
  ⟨setup.project, setup.linter, allowlist, setup.config⟩

/-- If a scan has a verdict, so has the other one: on as many files, with just the findings that the
allowlist leaves, and it does not fail unless the first one does. -/
def OnlyRemoves (large : Allowlist) (result other : Except ScanError Verdict) : Prop :=
  ∀ verdict, result = .ok verdict → ∃ smaller, other = .ok smaller ∧
    smaller.filesScanned = verdict.filesScanned ∧ smaller.findings = verdict.findings.filter large.reports ∧
    smaller.findings.Sublist verdict.findings ∧ (verdict.shouldFail = false → smaller.shouldFail = false)

theorem Verdict.shouldFail_of_sublist {verdict smaller : Verdict} (h : smaller.findings.Sublist verdict.findings)
    (hpass : verdict.shouldFail = false) : smaller.shouldFail = false := by
  have hle : smaller.unjustifiedErrorCount ≤ verdict.unjustifiedErrorCount := h.countP_le
  have hnone : ¬ 0 < verdict.unjustifiedErrorCount := of_decide_eq_false hpass
  exact decide_eq_false (by omega)

namespace Scan

/-! ### One file -/

section

variable {σ : Type} {setup : ScanSetup σ} {large : Allowlist} {rules : Path → Except LinterFailure Rules}
  {parts : List Text} {todo : List Suppression} {findings : List Finding}

theorem reportOf_larger {small : Allowlist} (hwithin : small.Within large) {relative : Text}
    (hpath : large.exemptsPath relative = false) (found : Rules) (s : Suppression) :
    Reference.reportOf large relative found s
      = (Reference.reportOf small relative found s).filter large.reports := by
  cases hlarge : large.exemptsRule s.rule with
  | true =>
    rw [Reference.reportOf_of_exempt hlarge]
    unfold Reference.reportOf
    split
    · rfl
    · cases FindingLevel.ofSeverity? (Severity.ofRule found s.rule) with
      | none => rfl
      | some level => simp [Option.filter, Allowlist.reports, hlarge]
  | false =>
    have hsmall : small.exemptsRule s.rule = false := by
      by_contra h
      simp [hwithin.exemptsRule (by simpa using h)] at hlarge
    simp only [Reference.reportOf, hlarge, hsmall, Bool.false_eq_true, if_false]
    cases FindingLevel.ofSeverity? (Severity.ofRule found s.rule) with
    | none => rfl
    | some level => simp [Option.filter, Allowlist.reports, hlarge, hpath]

theorem evaluated_eq_ok (h : evaluated setup rules parts todo = .ok findings) :
    (∃ found, rules (setup.project.root.below parts) = .ok found ∧
      findings = todo.filterMap (Reference.reportOf setup.allowlist (Path.relativeText parts) found)) ∨
    (todo.all fun s => setup.allowlist.exemptsRule s.rule) = true ∧ findings = [] := by
  unfold evaluated at h
  split at h
  · next hall => exact .inr ⟨hall, (Except.ok.inj h).symm⟩
  · split at h
    · cases h
    · next found hrules => exact .inl ⟨found, hrules, (Except.ok.inj h).symm⟩

theorem filePath_of_evaluated (h : evaluated setup rules parts todo = .ok findings) {f : Finding}
    (hf : f ∈ findings) : f.filePath = Path.relativeText parts := by
  rcases evaluated_eq_ok h with ⟨found, -, rfl⟩ | ⟨-, rfl⟩
  · obtain ⟨s, -, hreport⟩ := List.mem_filterMap.1 hf
    obtain ⟨level, rfl⟩ := Reference.exists_level_of_reportOf hreport
    rfl
  · cases hf

theorem evaluated_larger (hwithin : setup.allowlist.Within large)
    (hpath : large.exemptsPath (Path.relativeText parts) = false)
    (h : evaluated setup rules parts todo = .ok findings) :
    evaluated (setup.withAllowlist large) rules parts todo = .ok (findings.filter large.reports) := by
  rcases evaluated_eq_ok h with ⟨found, hrules, rfl⟩ | ⟨hall, rfl⟩
  · have hsame : rules ((setup.withAllowlist large).project.root.below parts) = .ok found := hrules
    rw [evaluated_of_rules hsame, List.filter_filterMap]
    exact congrArg Except.ok (List.filterMap_congr fun s _ => reportOf_larger hwithin hpath found s)
  · have hexempt : (todo.all fun s => large.exemptsRule s.rule) = true :=
      List.all_eq_true.2 fun s hs => hwithin.exemptsRule (List.all_eq_true.1 hall s hs)
    exact if_pos hexempt

theorem outcomeOf_larger (hwithin : setup.allowlist.Within large)
    (h : outcomeOf setup rules parts = .ok findings) :
    outcomeOf (setup.withAllowlist large) rules parts = .ok (findings.filter large.reports) := by
  unfold outcomeOf at h ⊢
  rw [show (setup.withAllowlist large).project = setup.project from rfl,
    show (setup.withAllowlist large).allowlist = large from rfl]
  cases hread : readSource setup.project parts with
  | error e => simp [hread] at h
  | ok content =>
    simp only [hread] at h ⊢
    cases hsmall : setup.allowlist.exemptsPath (Path.relativeText parts) with
    | true =>
      simp only [hsmall, if_true] at h
      obtain rfl := Except.ok.inj h
      rw [if_pos (hwithin.exemptsPath hsmall)]
      rfl
    | false =>
      simp only [hsmall, Bool.false_eq_true, if_false] at h
      cases hlarge : large.exemptsPath (Path.relativeText parts) with
      | true =>
        -- every finding lies in this file, so none is left
        have hnone : findings.filter large.reports = [] := by
          refine List.filter_eq_nil_iff.2 fun f hf => ?_
          simp [Allowlist.reports, filePath_of_evaluated h hf, hlarge]
        rw [hnone]
        rfl
      | false => exact evaluated_larger hwithin hlarge h

end

/-! ### Whole scans -/

theorem onlyRemoves_run {σ : Type} (setup : ScanSetup σ) {large : Allowlist} {holds : σ → Prop}
    {ignored : Path → Except LinterFailure Bool} {rules : Path → Except LinterFailure Rules}
    (hwithin : setup.allowlist.Within large) (hlinter : setup.linter.AnswersFrom holds ignored rules)
    {books later : σ} (hbooks : holds books) (hlater : holds later) (schedule again : List Nat) :
    OnlyRemoves large (setup.run schedule (RuleCache.fresh books)).result
      ((setup.withAllowlist large).run again (RuleCache.fresh later)).result := by
  intro verdict hverdict
  obtain ⟨kept, perFile, hkept, houtcomes, rfl⟩ := (run_eq_ok_iff hlinter hbooks schedule).1 hverdict
  have hfiltered : kept.map (outcomeOf (setup.withAllowlist large) rules)
      = (perFile.map fun findings => findings.filter large.reports).map Except.ok := by
    have hone : ∀ parts ∈ kept, outcomeOf (setup.withAllowlist large) rules parts
        = (outcomeOf setup rules parts).map fun findings => findings.filter large.reports := by
      intro parts hparts
      obtain ⟨findings, -, hok⟩ := exists_ok_of_map_eq houtcomes hparts
      rw [outcomeOf_larger hwithin hok, hok]
      rfl
    calc kept.map (outcomeOf (setup.withAllowlist large) rules)
        = (kept.map (outcomeOf setup rules)).map (Except.map fun findings => findings.filter large.reports) := by
          rw [List.map_map]
          exact List.map_congr_left hone
      _ = (perFile.map fun findings => findings.filter large.reports).map Except.ok := by
          rw [houtcomes, List.map_map, List.map_map]
          rfl
  have hlarge : (setup.withAllowlist large).linter.AnswersFrom holds ignored rules := hlinter
  have hfindings : (Verdict.ofFiles (perFile.map fun findings => findings.filter large.reports) kept.length).findings
      = (Verdict.ofFiles perFile kept.length).findings.filter large.reports := List.filter_flatten.symm
  have hsublist := hfindings ▸ List.filter_sublist
  exact ⟨_, (run_eq_ok_iff hlarge hlater again).2 ⟨kept, _, hkept, hfiltered, rfl⟩, rfl, hfindings, hsublist,
    Verdict.shouldFail_of_sublist hsublist⟩

/-- The project's own linter asks one process for everything, so what it tells does not depend on the
allowlist, however its processes behave. -/
theorem onlyRemoves_run_of_processes (setup : ScanSetup ProcessBooks) {linter : ProcessLinter}
    (hlinter : setup.linter = linter.toLinter) (hnodup : (askedPaths setup).Nodup) {large : Allowlist}
    (hwithin : setup.allowlist.Within large) (schedule again : List Nat) :
    OnlyRemoves large (setup.run schedule (RuleCache.fresh ProcessBooks.initial)).result
      ((setup.withAllowlist large).run again (RuleCache.fresh ProcessBooks.initial)).result := by
  have hlarge : (setup.withAllowlist large).linter = linter.toLinter := hlinter
  have hknowing : ∀ answer, OnlyRemoves large
      ((setup.withLinter (knowing answer)).run schedule (RuleCache.fresh ())).result
      (((setup.withAllowlist large).withLinter (knowing answer)).run again (RuleCache.fresh ())).result :=
    fun answer => onlyRemoves_run (setup.withLinter (knowing answer)) hwithin
      (Linter.ofFunctions_answersFrom _ _) trivial trivial schedule again
  by_cases hfiles : askedPaths setup = []
  · rw [(run_without_files hlinter hfiles schedule).1, (run_without_files hlarge hfiles again).1]
    exact hknowing _
  · cases hserved : linter.answersOf 0 (askedPaths setup) with
    | error failure =>
      rw [(run_of_failed_process hlinter hnodup hfiles hserved schedule).1]
      intro verdict hverdict
      cases hverdict
    | ok answers =>
      rw [(run_of_answering_process hlinter hnodup hfiles hserved schedule).1,
        (run_of_answering_process hlarge hnodup hfiles hserved again).1]
      exact hknowing _

end Scan

/-- Whatever the tree and the schedules, a larger allowlist only removes findings: with any linter whose
answers are functions of the path, and with the project's own linter, however its processes behave. -/
theorem larger_allowlist_only_removes_findings (small large : Allowlist) (hwithin : small.Within large)
    (project : Project) (config : ScanConfig) (schedule again : List Nat) :
    (∀ (σ : Type) (linter : Linter σ) (holds : σ → Prop) (ignored : Path → Except LinterFailure Bool)
      (rules : Path → Except LinterFailure Rules), linter.AnswersFrom holds ignored rules →
      ∀ books later, holds books → holds later →
        OnlyRemoves large (ScanSetup.run ⟨project, linter, small, config⟩ schedule (RuleCache.fresh books)).result
          (ScanSetup.run ⟨project, linter, large, config⟩ again (RuleCache.fresh later)).result) ∧
    (project.disk.NamesDistinct → ∀ linter : ProcessLinter,
      OnlyRemoves large
        (ScanSetup.run ⟨project, linter.toLinter, small, config⟩ schedule
          (RuleCache.fresh ProcessBooks.initial)).result
        (ScanSetup.run ⟨project, linter.toLinter, large, config⟩ again
          (RuleCache.fresh ProcessBooks.initial)).result) := by
  constructor
  · intro σ linter holds ignored rules hlinter books later hbooks hlater
    exact Scan.onlyRemoves_run ⟨project, linter, small, config⟩ hwithin hlinter hbooks hlater schedule
      again
  · intro hdistinct linter
    have hnodup := nodup_sourcePaths hdistinct config.discoveryOptions
    exact Scan.onlyRemoves_run_of_processes ⟨project, linter.toLinter, small, config⟩ rfl hnodup hwithin
      schedule again

/-- Three suppressions in two files. -/
def pairProject : Project :=
  ⟨⟨['/'], []⟩, ⟨.directory none none
    [("b.js".toList, .file (.ok (Utf8.encode "// eslint-disable-line semi, eqeqeq".toList))),
      ("a.js".toList, .file (.ok (Utf8.encode "// eslint-disable-line semi -- old".toList)))]⟩⟩

def strictLinter : Linter Unit :=
  Linter.ofFunctions (fun _ => false) fun _ => .ok [("semi".toList, .int 2), ("eqeqeq".toList, .int 1)]

def smallList : Allowlist := ⟨["quotes".toList], []⟩

def largeList : Allowlist := ⟨["eqeqeq".toList, "quotes".toList], ["a*".toList, "a*".toList]⟩

def globless : ScanConfig := { ScanConfig.default with excludeGlobs := [] }

theorem larger_allowlist_only_removes_findings_of_pair :
    smallList.Within largeList ∧
    (∃ smaller, (ScanSetup.run ⟨pairProject, strictLinter, largeList, globless⟩ [0, 0]
        (RuleCache.fresh ())).result = .ok smaller ∧ smaller.filesScanned = 2 ∧
      smaller.findings = [⟨"b.js".toList, 1, 24, .error, "semi".toList, true, none, .line⟩]) ∧
    flatProject.disk.NamesDistinct ∧
    ∃ smaller, (ScanSetup.run ⟨flatProject, minifiedLinter.toLinter, largeList, globless⟩ [0, 0]
        (RuleCache.fresh ProcessBooks.initial)).result = .ok smaller ∧ smaller.filesScanned = 1 ∧
      smaller.findings = [] := by
  have hwithin : smallList.Within largeList := ⟨by decide, by decide⟩
  have hdistinct : flatProject.disk.NamesDistinct := by
    simp only [flatProject, Disk.NamesDistinct, DiskItem.NamesDistinct, DiskItem.EachDistinct, and_true]
    decide
  have hanswers : strictLinter.AnswersFrom (fun _ => True) _ _ := Linter.ofFunctions_answersFrom _ _
  have hverdict : (ScanSetup.run ⟨pairProject, strictLinter, smallList, globless⟩ [1, 0]
      (RuleCache.fresh ())).result
        = .ok ⟨[⟨"a.js".toList, 1, 24, .error, "semi".toList, false, some "old".toList, .line⟩,
          ⟨"b.js".toList, 1, 24, .error, "semi".toList, true, none, .line⟩,
          ⟨"b.js".toList, 1, 30, .warning, "eqeqeq".toList, true, none, .line⟩], 2⟩ := by
    decide +kernel
  have hserved : (ScanSetup.run ⟨flatProject, minifiedLinter.toLinter, smallList, globless⟩ [1, 0]
      (RuleCache.fresh ProcessBooks.initial)).result
        = .ok ⟨[⟨"a.js".toList, 1, 24, .error, "semi".toList, true, none, .line⟩], 1⟩ := by
    decide +kernel
  obtain ⟨hknown, -⟩ := larger_allowlist_only_removes_findings smallList largeList hwithin pairProject
    globless [1, 0] [0, 0]
  obtain ⟨-, hprocesses⟩ := larger_allowlist_only_removes_findings smallList largeList hwithin flatProject
    globless [1, 0] [0, 0]
  obtain ⟨smaller, hsmaller, hscanned, hfindings, -⟩ :=
    hknown Unit strictLinter _ _ _ hanswers () () trivial trivial _ hverdict
  obtain ⟨less, hless, hlessScanned, hlessFindings, -⟩ := hprocesses hdistinct minifiedLinter _ hserved
  refine ⟨hwithin, ⟨smaller, hsmaller, hscanned, ?_⟩, hdistinct, less, hless, hlessScanned, ?_⟩
  · rw [hfindings]
    decide +kernel
  · rw [hlessFindings]
    decide +kernel

end SuppressionAudit

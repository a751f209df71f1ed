import SuppressionAudit.Proofs.Scan.Outcomes

/-!
# Scans without a schedule

When nothing fails, a scan finds what would be found by going through the files one after the other,
without tasks and without a cache: the reference below says file by file and suppression by suppression
what is reported.
-/

namespace SuppressionAudit

/-! ### The reference -/

namespace Reference

variable {σ : Type}

/-- The text of the file at names below the root. -/
def textOf (project : Project) (parts : List Text) : Text :=
  match project.read parts with
  | .ok bytes => Text.unifyLineBreaks (Utf8.decodeLossy bytes)
  | .error _ => []

/-- The findings in one file. -/
def findingsIn (setup : ScanSetup σ) (rules : Path → Rules) (parts : List Text) : List Finding :=
  if setup.allowlist.exemptsPath (Path.relativeText parts) then []
  else
    (extractSuppressions (textOf setup.project parts)).filterMap
      (reportOf setup.allowlist (Path.relativeText parts) (rules (setup.project.root.below parts)))

/-- The findings in all files, one file after the other. -/
def findings (setup : ScanSetup σ) (ignores : Path → Bool) (rules : Path → Rules) : List Finding :=
  (filesOf setup ignores).flatMap (findingsIn setup rules)

theorem justificationMissing_of_mem {setup : ScanSetup σ} {ignores : Path → Bool} {rules : Path → Rules}
    {f : Finding} (h : f ∈ findings setup ignores rules) :
    f.justificationMissing = true ↔ f.justification = none := by
  obtain ⟨parts, -, hin⟩ := List.mem_flatMap.1 h
  exact justificationMissing_of_mem_reportsIn hin

end Reference

namespace Scan

/-! ### Files without errors -/

theorem textOf_of_readSource {project : Project} {parts : List Text} {content : Text}
    (h : readSource project parts = .ok content) : content = Reference.textOf project parts := by
  unfold readSource at h
  unfold Reference.textOf
  cases hnul : Path.hasNul parts with
  | true => simp [hnul] at h
  | false =>
    cases hread : project.read parts with
    | error fault => simp [hnul, hread] at h
    | ok bytes =>
      simp only [hnul, hread, Bool.false_eq_true, if_false] at h
      exact (Except.ok.inj h).symm

section

variable {σ : Type} {setup : ScanSetup σ} {holds : σ → Prop} {ignored : Path → Except LinterFailure Bool}
  {rules : Path → Except LinterFailure Rules} {effective : Path → Rules} {parts : List Text}

/-- Nothing fails in a file: it can be read, and the linter gives its rules if they are needed. -/
structure Ready (setup : ScanSetup σ) (rules : Path → Except LinterFailure Rules) (effective : Path → Rules)
    (parts : List Text) : Prop where
  readable : ∃ content, readSource setup.project parts = .ok content
  given : setup.allowlist.exemptsPath (Path.relativeText parts) = false →
    ∀ s ∈ extractSuppressions (Reference.textOf setup.project parts),
      setup.allowlist.exemptsRule s.rule = false →
      rules (setup.project.root.below parts) = .ok (effective (setup.project.root.below parts))

theorem outcomeOf_of_ready (hready : Ready setup rules effective parts) :
    outcomeOf setup rules parts = .ok (Reference.findingsIn setup effective parts) := by
  obtain ⟨content, hread⟩ := hready.readable
  obtain rfl := textOf_of_readSource hread
  unfold outcomeOf Reference.findingsIn
  rw [hread]
  cases hexempt : setup.allowlist.exemptsPath (Path.relativeText parts) with
  | true => rfl
  | false =>
    simp only [Bool.false_eq_true, if_false]
    -- the rules are needed only when a suppression is left
    by_cases hall : ((extractSuppressions (Reference.textOf setup.project parts)).all fun s =>
        setup.allowlist.exemptsRule s.rule) = true
    · rw [evaluated, if_pos hall, filterMap_reportOf_of_exempt hall]
    · obtain ⟨s, hs, hleft⟩ : ∃ s ∈ extractSuppressions (Reference.textOf setup.project parts),
          setup.allowlist.exemptsRule s.rule = false := by
        simpa using hall
      exact evaluated_of_rules (hready.given hexempt s hs hleft) _

theorem scanFiles_ok {files : List (List Text)} (hlinter : setup.linter.AnswersFrom holds ignored rules)
    (hready : ∀ parts ∈ files, Ready setup rules effective parts) {cache : RuleCache σ}
    (hcache : CacheAgrees holds rules cache) (schedule : List Nat) :
    (scanFiles setup schedule files cache).1
      = .ok (files.map (Reference.findingsIn setup effective)) := by
  rw [scanFiles_eq_ok_iff hlinter hcache, List.map_map]
  exact List.map_congr_left fun parts hparts => outcomeOf_of_ready (hready parts hparts)

end

end Scan

/-! ### Whole scans -/

/-- No source file that the linter does not ignore is unreadable, and no question fails that a scan has
to ask; `ignores` and `effective` are the answers. -/
structure NothingFails {σ : Type} (setup : ScanSetup σ) (ignored : Path → Except LinterFailure Bool)
    (rules : Path → Except LinterFailure Rules) (ignores : Path → Bool) (effective : Path → Rules) :
    Prop where
  checked : ∀ parts ∈ findSourceFiles setup.config.discoveryOptions setup.project,
    ignored (setup.project.root.below parts) = .ok (ignores (setup.project.root.below parts))
  ready : ∀ parts ∈ Reference.filesOf setup ignores, Scan.Ready setup rules effective parts

/-- When nothing fails, the verdict is on what the reference finds in each file. -/
theorem run_of_nothingFails {σ : Type} {setup : ScanSetup σ} {holds : σ → Prop}
    {ignored : Path → Except LinterFailure Bool} {rules : Path → Except LinterFailure Rules}
    {ignores : Path → Bool} {effective : Path → Rules} {books : σ}
    (hlinter : setup.linter.AnswersFrom holds ignored rules) (hbooks : holds books)
    (hnothing : NothingFails setup ignored rules ignores effective) (schedule : List Nat) :
    (setup.run schedule (RuleCache.fresh books)).result
      = .ok (Verdict.ofFiles ((Reference.filesOf setup ignores).map (Reference.findingsIn setup effective))
        (Reference.filesOf setup ignores).length) := by
  obtain ⟨hkept, hbooksAfter⟩ := Scan.filterIgnored_ok hlinter hnothing.checked hbooks
  have hcache : Scan.CacheAgrees holds rules
      ⟨(Scan.filterIgnored setup.linter setup.project
          (findSourceFiles setup.config.discoveryOptions setup.project) books).2, []⟩ :=
    ⟨hbooksAfter, by simp⟩
  have hfiles := Scan.scanFiles_ok hlinter hnothing.ready hcache schedule
  unfold findSourceFiles at hkept hfiles
  unfold ScanSetup.run
  simp only [RuleCache.fresh, hkept]
  unfold Reference.filesOf findSourceFiles at hfiles
  rw [hfiles]
  rfl

/-- When nothing fails, a scan reports under every schedule what the reference reports. -/
theorem scan_eq_sequential {σ : Type} (setup : ScanSetup σ) (schedule : List Nat) (holds : σ → Prop)
    (ignored : Path → Except LinterFailure Bool) (rules : Path → Except LinterFailure Rules)
    (ignores : Path → Bool) (effective : Path → Rules) (books : σ)
    (hlinter : setup.linter.AnswersFrom holds ignored rules) (hbooks : holds books)
    (hnothing : NothingFails setup ignored rules ignores effective) :
    ∃ verdict, (setup.run schedule (RuleCache.fresh books)).result = .ok verdict ∧
      verdict.findings = Reference.findings setup ignores effective ∧
      verdict.filesScanned = (Reference.filesOf setup ignores).length ∧
      (verdict.shouldFail = true ↔ ∃ f ∈ Reference.findings setup ignores effective,
        f.level = .error ∧ f.justification = none) := by
  refine ⟨_, run_of_nothingFails hlinter hbooks hnothing schedule, ?_, rfl, ?_⟩
  · exact List.flatMap_def.symm
  · have hfindings : (Verdict.ofFiles ((Reference.filesOf setup ignores).map
        (Reference.findingsIn setup effective)) (Reference.filesOf setup ignores).length).findings
        = Reference.findings setup ignores effective := List.flatMap_def.symm
    unfold Verdict.shouldFail Verdict.unjustifiedErrorCount
    rw [hfindings, decide_eq_true_iff, List.countP_pos_iff]
    refine exists_congr fun f => and_congr_right fun hf => ?_
    rw [← Reference.justificationMissing_of_mem hf]
    simp [Finding.isUnjustifiedError]

def smallProject : Project :=
  ⟨⟨['/'], ["p".toList]⟩, ⟨.directory none none [("p".toList, .directory none none
    [("b.js".toList, .file (.ok (Utf8.encode "// eslint-disable-line semi, quotes, off -- old".toList))),
      ("a.js".toList, .file (.ok (Utf8.encode "x // eslint-disable-line semi\r\n".toList))),
      ("m.js".toList, .file (.error .permissionDenied)),
      ("gen".toList, .directory none none
        [("c.js".toList, .file (.ok (Utf8.encode "// eslint-disable-line semi".toList)))])])]⟩⟩

/-- A file is ignored and cannot be read, another one is exempt and has no rules. -/
def smallSetup : ScanSetup Unit where
  project := smallProject
  linter := Linter.ofFunctions (fun path => path.name = "m.js".toList) fun path =>
    if path.name = "c.js".toList then .error .notJson else .ok [("semi".toList, .int 2)]
  allowlist := ⟨["quotes".toList], ["gen/**".toList]⟩
  config := ScanConfig.default

theorem filesOf_small : Reference.filesOf smallSetup (fun path => path.name = "m.js".toList)
    = [["a.js".toList], ["b.js".toList], ["gen".toList, "c.js".toList]] := by
  decide +kernel

theorem readSource_small_a : Scan.readSource smallProject ["a.js".toList]
    = .ok "x // eslint-disable-line semi\n".toList := by
  decide +kernel

theorem readSource_small_b : Scan.readSource smallProject ["b.js".toList]
    = .ok "// eslint-disable-line semi, quotes, off -- old".toList := by
  decide +kernel

theorem readSource_small_c : Scan.readSource smallProject ["gen".toList, "c.js".toList]
    = .ok "// eslint-disable-line semi".toList := by
  decide +kernel

theorem nothingFails_small : NothingFails smallSetup (fun path => .ok (path.name = "m.js".toList))
    (fun path => if path.name = "c.js".toList then .error .notJson else .ok [("semi".toList, .int 2)])
    (fun path => path.name = "m.js".toList) (fun _ => [("semi".toList, .int 2)]) := by
  refine ⟨fun _ _ => rfl, fun parts hparts => ?_⟩
  rw [filesOf_small] at hparts
  simp only [List.mem_cons, List.not_mem_nil, or_false] at hparts
  rcases hparts with rfl | rfl | rfl
  · exact ⟨⟨_, readSource_small_a⟩, fun _ _ _ _ => rfl⟩
  · exact ⟨⟨_, readSource_small_b⟩, fun _ _ _ _ => rfl⟩
  · refine ⟨⟨_, readSource_small_c⟩, fun hexempt => ?_⟩
    exact absurd hexempt (by decide +kernel)

theorem scan_eq_sequential_small :
    ∃ verdict, (smallSetup.run [1, 0, 2, 1, 7, 1, 0] (RuleCache.fresh ())).result = .ok verdict ∧
      verdict.findings
        = [⟨"a.js".toList, 1, 26, .error, "semi".toList, true, none, .line⟩,
          ⟨"b.js".toList, 1, 24, .error, "semi".toList, false, some "old".toList, .line⟩] ∧
      verdict.filesScanned = 3 ∧ verdict.shouldFail = true := by
  have hfindings : Reference.findings smallSetup (fun path => path.name = "m.js".toList)
        (fun _ => [("semi".toList, .int 2)])
      = [⟨"a.js".toList, 1, 26, .error, "semi".toList, true, none, .line⟩,
        ⟨"b.js".toList, 1, 24, .error, "semi".toList, false, some "old".toList, .line⟩] := by
    unfold Reference.findings Reference.findingsIn
    rw [filesOf_small]
    simp only [List.flatMap_cons, List.flatMap_nil, show smallSetup.project = smallProject from rfl,
      ← Scan.textOf_of_readSource readSource_small_a, ← Scan.textOf_of_readSource readSource_small_b]
    decide +kernel
  obtain ⟨verdict, hresult, hfound, hscanned, hfail⟩ := scan_eq_sequential smallSetup [1, 0, 2, 1, 7, 1, 0]
    (fun _ => True) _ _ _ _ () (Linter.ofFunctions_answersFrom _ _) trivial nothingFails_small
  rw [hfindings] at hfound hfail
  rw [filesOf_small] at hscanned
  exact ⟨verdict, hresult, hfound, hscanned, hfail.2 ⟨_, List.mem_cons_self, rfl, rfl⟩⟩

end SuppressionAudit

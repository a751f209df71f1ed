import SuppressionAudit.Proofs.Report.Groups
import SuppressionAudit.Proofs.Scan.CountedOnce
import SuppressionAudit.Proofs.Walk

/-!
# Scans and the order of their reports

Source files stand in the order of their paths, name by name, and findings in the order of their files. So
the findings of one file are next to each other in what a scan returns, and the groups of its report are
the findings as they stand.
-/

namespace SuppressionAudit

/-! ### The order of files -/

/-- Whether a path stands in front of another one, or is the same: by their names, one after the other. -/
def Path.TextLe (p q : Text) : Prop := partsLe (segmentsOf p) (segmentsOf q) = true

theorem Path.textLe_antisymm {p q : Text} (hpq : TextLe p q) (hqp : TextLe q p) : p = q := by
  have hsegments : segmentsOf p = segmentsOf q :=
    List.le_antisymm ((partsLe_iff _ _).1 hpq) ((partsLe_iff _ _).1 hqp)
  rw [← Text.joinWith_splitOn '/' p, ← Text.joinWith_splitOn '/' q]
  exact congrArg (Text.joinWith ['/']) hsegments

theorem segmentsOf_relativeText {parts : List Text} (h : IsBelowRoot parts) :
    segmentsOf (Path.relativeText parts) = parts := by
  have htext : Path.relativeText parts = Path.joinParts parts := by
    have hne := h.ne_nil
    simp [Path.relativeText, Path.toText, hne]
  rw [htext, segmentsOf_joinParts h]

theorem isBelowRoot_of_mem_findSourceFiles {o : DiscoveryOptions} {project : Project}
    (hnamed : project.tree.IsNamed) {parts : List Text} (h : parts ∈ findSourceFiles o project) :
    IsBelowRoot parts :=
  Discovery.isBelowRoot_of_found hnamed ((stableSort_perm Path.partsLe _).mem_iff.1 h)

theorem pairwise_textLe_findSourceFiles {o : DiscoveryOptions} {project : Project}
    (hnamed : project.tree.IsNamed) :
    ((findSourceFiles o project).map Path.relativeText).Pairwise Path.TextLe := by
  have hordered : (findSourceFiles o project).Pairwise fun a b => Path.partsLe a b = true :=
    (stablySorts_stableSort Path.partsLe_ranks _).ordered
  refine List.pairwise_map.2 (hordered.imp_of_mem fun {a b} ha hb hab => ?_)
  rw [Path.TextLe, segmentsOf_relativeText (isBelowRoot_of_mem_findSourceFiles hnamed ha),
    segmentsOf_relativeText (isBelowRoot_of_mem_findSourceFiles hnamed hb)]
  exact hab

/-! ### The order of findings -/

section

variable {files : List Text} {perFile : List (List Finding)}

theorem filePath_mem_of_mem_flatten
    (h : List.Forall₂ (fun findings path => ∀ f ∈ findings, f.filePath = path) perFile files) :
    ∀ f ∈ perFile.flatten, f.filePath ∈ files := by
  induction h with
  | nil => simp
  | cons hhere hrest ih =>
    intro f hf
    rw [List.flatten_cons, List.mem_append] at hf
    rcases hf with hf | hf
    · exact List.mem_cons.2 (.inl (hhere f hf))
    · exact List.mem_cons_of_mem _ (ih f hf)

/-- Findings that are given file by file stand in the order of the files. -/
theorem pairwise_textLe_flatten (hfiles : files.Pairwise Path.TextLe)
    (h : List.Forall₂ (fun findings path => ∀ f ∈ findings, f.filePath = path) perFile files) :
    perFile.flatten.Pairwise fun f g => Path.TextLe f.filePath g.filePath := by
  induction h with
  | nil => exact List.Pairwise.nil
  | cons hhere hrest ih =>
    obtain ⟨hfirst, hfiles⟩ := List.pairwise_cons.1 hfiles
    rw [List.flatten_cons, List.pairwise_append]
    refine ⟨List.pairwise_of_forall_mem_list fun f hf g hg => ?_, ih hfiles, fun f hf g hg => ?_⟩
    · rw [hhere f hf, hhere g hg]
      exact (Path.partsLe_ranks.total _ _).elim id id
    · rw [hhere f hf]
      exact hfirst _ (filePath_mem_of_mem_flatten hrest g hg)

end

namespace Scan

variable {σ : Type} {setup : ScanSetup σ} {schedule : List Nat} {cache : RuleCache σ} {verdict : Verdict}

/-- The findings of a scan are given file by file, in the order in which the files are found. -/
theorem filePaths_run (h : (setup.run schedule cache).result = .ok verdict) :
    ∃ (kept : List (List Text)) (perFile : List (List Finding)),
      kept.Sublist (findSourceFiles setup.config.discoveryOptions setup.project) ∧
      verdict.findings = perFile.flatten ∧
      List.Forall₂ (fun findings path => ∀ f ∈ findings, f.filePath = path) perFile
        (kept.map Path.relativeText) := by
  obtain ⟨kept, perFile, hkept, rfl, hdrawn⟩ := spots_run h
  refine ⟨kept, perFile, hkept, rfl, List.forall₂_map_right_iff.2 ?_⟩
  exact hdrawn.imp fun findings parts hfindings => hfindings.countsOnce.filePath

theorem pairwise_textLe_run (hnamed : setup.project.tree.IsNamed)
    (h : (setup.run schedule cache).result = .ok verdict) :
    verdict.findings.Pairwise fun f g => Path.TextLe f.filePath g.filePath := by
  obtain ⟨kept, perFile, hkept, hfindings, hpaths⟩ := filePaths_run h
  rw [hfindings]
  refine pairwise_textLe_flatten ?_ hpaths
  exact (pairwise_textLe_findSourceFiles hnamed).sublist (hkept.map _)

/-- The files in a report are files that were found, in the order in which they were found. -/
theorem reported_sublist (hnamed : setup.project.tree.IsNamed)
    (h : (setup.run schedule cache).result = .ok verdict) :
    (verdict.findings.map Finding.filePath).eraseDups.Sublist
      ((findSourceFiles setup.config.discoveryOptions setup.project).map Path.relativeText) := by
  have : Std.Antisymm Path.TextLe := ⟨fun _ _ => Path.textLe_antisymm⟩
  refine List.sublist_of_subperm_of_pairwise (r := Path.TextLe) ?_ ?_ (pairwise_textLe_findSourceFiles hnamed)
  · refine List.subperm_of_subset (nodup_eraseDups _) fun path hpath => ?_
    obtain ⟨f, hf, rfl⟩ := List.mem_map.1 (List.mem_eraseDups.1 hpath)
    obtain ⟨kept, perFile, hkept, hfindings, hpaths⟩ := filePaths_run h
    exact (hkept.map _).subset (filePath_mem_of_mem_flatten hpaths f (hfindings ▸ hf))
  · exact (List.pairwise_map.2 (pairwise_textLe_run hnamed h)).sublist (eraseDups_sublist _)

end Scan

/-- Grouping findings for a report loses none of them, whatever they are: each file is listed once, where its first
finding stands, with all its findings in their order, and what a verdict counts is what its groups count together.
What a scan returns stands in the order of the files it found, so its groups are its findings as they stand. -/
theorem report_groups_keep_findings :
    (∀ findings : List Finding,
      groupByFile findings = (findings.map Finding.filePath).eraseDups.map
        (fun path => (path, findings.filter fun f => f.filePath == path)) ∧
      ∀ count ∈ [Verdict.errorCount, Verdict.warningCount, Verdict.unjustifiedErrorCount], ∀ filesScanned,
        ((groupByFile findings).map fun group => count ⟨group.2, filesScanned⟩).sum
          = count ⟨findings, filesScanned⟩) ∧
    ∀ (σ : Type) (setup : ScanSetup σ) (schedule : List Nat) (cache : RuleCache σ) (verdict : Verdict),
      setup.project.tree.IsNamed → (setup.run schedule cache).result = .ok verdict →
      (groupByFile verdict.findings).flatMap Prod.snd = verdict.findings ∧
      ((groupByFile verdict.findings).map Prod.fst).Sublist
        ((findSourceFiles setup.config.discoveryOptions setup.project).map Path.relativeText) := by
  refine ⟨fun findings => ⟨groupByFile_eq findings, ?_⟩, fun σ setup schedule cache verdict hnamed hverdict => ?_⟩
  · intro count hcount filesScanned
    simp only [List.mem_cons, List.not_mem_nil, or_false] at hcount
    rcases hcount with rfl | rfl | rfl
    · exact sum_countP_groupByFile _ findings
    · exact sum_countP_groupByFile _ findings
    · exact sum_countP_groupByFile _ findings
  · rw [groupByFile_eq, map_fst_gathered]
    have hordered := Scan.pairwise_textLe_run hnamed hverdict
    exact ⟨flatMap_gathered_of_pairwise (fun _ _ => Path.textLe_antisymm) hordered,
      Scan.reported_sublist hnamed hverdict⟩

/-- A directory and a file whose name goes on with a dot: as texts their paths stand the other way round. -/
def forkedSetup : ScanSetup Unit where
  project := ⟨⟨['/'], []⟩, ⟨.directory none none
    [("a.js".toList, .file (.ok (Utf8.encode "x // eslint-disable-line r".toList))),
      ("a".toList, .directory none none
        [("b.js".toList, .file (.ok (Utf8.encode "// eslint-disable-line r, s".toList)))])]⟩⟩
  linter := Linter.ofFunctions (fun _ => false) fun _ => .ok [("r".toList, .int 1), ("s".toList, .int 2)]
  allowlist := ⟨[], []⟩
  config := { ScanConfig.default with excludeGlobs := [] }

def forkedVerdict : Verdict :=
  ⟨[⟨"a/b.js".toList, 1, 24, .warning, ['r'], true, none, .line⟩,
    ⟨"a/b.js".toList, 1, 27, .error, ['s'], true, none, .line⟩,
    ⟨"a.js".toList, 1, 26, .warning, ['r'], true, none, .line⟩], 2⟩

theorem report_groups_keep_findings_of_forked :
    forkedSetup.project.tree.IsNamed ∧
    (forkedSetup.run [1, 0, 1, 0] (RuleCache.fresh ())).result = .ok forkedVerdict ∧
    (groupByFile forkedVerdict.findings).map Prod.fst = ["a/b.js".toList, "a.js".toList] ∧
    (groupByFile forkedVerdict.findings).flatMap Prod.snd = forkedVerdict.findings := by
  have hnamed : forkedSetup.project.tree.IsNamed := by
    have htree : forkedSetup.project.tree
        = .directory none [("a".toList, .directory none [("b.js".toList, .file)]), ("a.js".toList, .file)] := by rfl
    have hdirectory : IsName "a".toList := ⟨by decide, by decide, by decide⟩
    have hbelow : IsName "b.js".toList := ⟨by decide, by decide, by decide⟩
    have hbeside : IsName "a.js".toList := ⟨by decide, by decide, by decide⟩
    rw [htree]
    simp only [Node.IsNamed, Node.AreNamed, and_true]
    exact ⟨hdirectory, hbelow, hbeside⟩
  have hverdict : (forkedSetup.run [1, 0, 1, 0] (RuleCache.fresh ())).result = .ok forkedVerdict := by decide +kernel
  obtain ⟨hgroups, hscans⟩ := report_groups_keep_findings
  refine ⟨hnamed, hverdict, ?_, (hscans Unit forkedSetup _ _ _ hnamed hverdict).1⟩
  rw [(hgroups forkedVerdict.findings).1]
  decide

end SuppressionAudit

import Mathlib.Algebra.GroupWithZero.Nat
import SuppressionAudit.Proofs.Gathering
import SuppressionAudit.Verdict

/-!
# Findings in groups

The groups of a report are its findings gathered by their files: each file once, in the order of the first
findings, and each group all findings of its file in their order.
-/

namespace SuppressionAudit

variable {f : Finding} {groups : FindingGroups}

/-! ### Adding a finding -/

theorem addToGroups_of_notMem (h : f.filePath ∉ groups.map Prod.fst) :
    addToGroups f groups = groups ++ [(f.filePath, [f])] := by
  induction groups with
  | nil => rfl
  | cons group groups ih =>
    obtain ⟨path, findings⟩ := group
    rw [List.map_cons, List.mem_cons, not_or] at h
    rw [addToGroups, if_neg (Ne.symm h.1), ih h.2, List.cons_append]

theorem addToGroups_of_mem (hnodup : (groups.map Prod.fst).Nodup) (h : f.filePath ∈ groups.map Prod.fst) :
    addToGroups f groups
      = groups.map fun group => (group.1, if group.1 = f.filePath then group.2 ++ [f] else group.2) := by
  induction groups with
  | nil => cases h
  | cons group groups ih =>
    obtain ⟨path, findings⟩ := group
    rw [List.map_cons, List.nodup_cons] at hnodup
    rw [List.map_cons, addToGroups]
    by_cases hpath : path = f.filePath
    · -- the files of the other groups differ
      have hothers : ∀ other ∈ groups,
          (other.1, if other.1 = f.filePath then other.2 ++ [f] else other.2) = other := by
        intro other hother
        have hne : other.1 ≠ f.filePath := by
          intro hsame
          exact hnodup.1 (List.mem_map.2 ⟨other, hother, hsame.trans hpath.symm⟩)
        rw [if_neg hne]
      rw [if_pos hpath, if_pos hpath, List.map_congr_left hothers, List.map_id']
    · rw [List.map_cons, List.mem_cons] at h
      rw [if_neg hpath, if_neg hpath, ih hnodup.2 (h.resolve_left (Ne.symm hpath))]

theorem addToGroups_gathered (f : Finding) (findings : List Finding) :
    addToGroups f (gathered Finding.filePath findings) = gathered Finding.filePath (findings ++ [f]) := by
  have hpaths := map_fst_gathered Finding.filePath findings
  obtain ⟨hagain, hfirst⟩ := eraseDups_append_singleton (findings.map Finding.filePath) f.filePath
  by_cases hmem : f.filePath ∈ findings.map Finding.filePath
  · have hin : f.filePath ∈ (gathered Finding.filePath findings).map Prod.fst := by
      rwa [hpaths, List.mem_eraseDups]
    rw [addToGroups_of_mem (hpaths ▸ nodup_eraseDups _) hin, gathered, gathered, List.map_map, List.map_append,
      List.map_singleton, hagain hmem]
    refine List.map_congr_left fun path _ => ?_
    by_cases hpath : path = f.filePath
    · simp [hpath, List.filter_append]
    · simp [hpath, List.filter_append, Ne.symm hpath]
  · have hout : f.filePath ∉ (gathered Finding.filePath findings).map Prod.fst := by
      rwa [hpaths, List.mem_eraseDups]
    have hnone : findings.filter (fun g => g.filePath == f.filePath) = [] := by
      refine List.filter_eq_nil_iff.2 fun g hg hsame => hmem ?_
      exact (beq_iff_eq.1 hsame) ▸ List.mem_map_of_mem hg
    rw [addToGroups_of_notMem hout, gathered, gathered, List.map_append, List.map_singleton, hfirst hmem,
      List.map_append, List.map_singleton, List.filter_append, hnone]
    congr 1
    · refine List.map_congr_left fun path hpath => ?_
      have hne : f.filePath ≠ path := fun heq => hmem (heq ▸ List.mem_eraseDups.1 hpath)
      simp [List.filter_append, hne]
    · simp

/-- The groups of findings are the findings gathered by their files. -/
theorem groupByFile_eq (findings : List Finding) : groupByFile findings = gathered Finding.filePath findings := by
  have hfold : ∀ done, findings.foldl (fun groups f => addToGroups f groups) (gathered Finding.filePath done)
      = gathered Finding.filePath (done ++ findings) := by
    induction findings with
    | nil => exact fun done => by rw [List.foldl_nil, List.append_nil]
    | cons f findings ih =>
      intro done
      rw [List.foldl_cons, addToGroups_gathered, ih, List.append_assoc, List.singleton_append]
  exact hfold []

/-! ### What groups hold -/

/-- The groups are those of the paths of the findings. -/
theorem mem_paths_groupByFile {findings : List Finding} {path : Text} :
    path ∈ (groupByFile findings).map Prod.fst ↔ ∃ f ∈ findings, f.filePath = path := by
  rw [groupByFile_eq, gathered, List.map_map]
  simp

/-- Every finding of a group is one of those that were grouped. -/
theorem mem_of_mem_groupByFile {findings : List Finding} {group : Text × List Finding}
    (h : group ∈ groupByFile findings) : ∀ f ∈ group.2, f ∈ findings := by
  rw [groupByFile_eq] at h
  obtain ⟨path, -, rfl⟩ := List.mem_map.1 h
  exact fun f hf => List.mem_of_mem_filter hf

/-- What is counted in the groups adds up to what is counted in all findings. -/
theorem sum_countP_groupByFile (p : Finding → Bool) (findings : List Finding) :
    ((groupByFile findings).map fun group => group.2.countP p).sum = findings.countP p := by
  rw [groupByFile_eq, ← (flatMap_gathered_perm Finding.filePath findings).countP_eq p, List.countP_flatMap]
  rfl

end SuppressionAudit

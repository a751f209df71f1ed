import Mathlib.Data.List.Perm.Basic

/-!
# Entries of a key

Results, answers and directories are lists of entries under a key, and the first entry of a key counts.
Where no key stands twice, that is any entry of the key, in whatever order they stand.
-/

namespace SuppressionAudit

namespace Entries

variable {α β : Type} [BEq α] [LawfulBEq α] {key : α} {value : β} {entries listed : List (α × β)}

theorem lookup_eq_none_iff_notMem_keys : entries.lookup key = none ↔ key ∉ entries.map Prod.fst := by
  rw [List.lookup_eq_none_iff, List.mem_map]
  constructor
  · rintro h ⟨entry, hmem, rfl⟩
    simpa using h entry hmem
  · intro h entry hmem
    simpa using fun e => h ⟨entry, hmem, e.symm⟩

theorem mem_of_lookup_eq_some (h : entries.lookup key = some value) : (key, value) ∈ entries := by
  obtain ⟨front, back, rfl, -⟩ := List.lookup_eq_some_iff.1 h
  exact List.mem_append_right front List.mem_cons_self

theorem lookup_eq_some_iff_mem (hnodup : (entries.map Prod.fst).Nodup) :
    entries.lookup key = some value ↔ (key, value) ∈ entries := by
  refine ⟨mem_of_lookup_eq_some, fun h => ?_⟩
  obtain ⟨front, back, rfl⟩ := List.append_of_mem h
  rw [List.map_append, List.map_cons, List.nodup_append] at hnodup
  -- an entry of the key in front of this one would be a second one
  have hfront : front.lookup key = none := lookup_eq_none_iff_notMem_keys.2 fun hkey =>
    hnodup.2.2 key hkey key List.mem_cons_self rfl
  simp [List.lookup_append, hfront]

theorem lookup_perm (hperm : entries.Perm listed) (hnodup : (entries.map Prod.fst).Nodup) (key : α) :
    entries.lookup key = listed.lookup key := by
  have hlisted : (listed.map Prod.fst).Nodup := (hperm.map Prod.fst).nodup_iff.1 hnodup
  refine Option.ext fun value => ?_
  rw [lookup_eq_some_iff_mem hnodup, lookup_eq_some_iff_mem hlisted, hperm.mem_iff]

end Entries

end SuppressionAudit

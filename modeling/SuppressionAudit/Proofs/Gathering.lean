import Mathlib.Data.List.Nodup

/-!
# Entries gathered by a key

Entries are gathered under their keys, keys in the order in which they first occur and entries in their
order. That loses none of them, and puts them back in their place where the keys stand in an order.
-/

namespace SuppressionAudit

/-! ### First occurrences -/

theorem eraseDups_sublist {α : Type} [BEq α] : ∀ xs : List α, xs.eraseDups.Sublist xs
  | [] => by simp
  | x :: xs => by
    rw [List.eraseDups_cons]
    exact ((eraseDups_sublist _).trans List.filter_sublist).cons_cons x
termination_by xs => xs.length
decreasing_by exact Nat.lt_succ_of_le (List.length_filter_le _ _)

section

variable {α : Type} [BEq α] [LawfulBEq α]

theorem eraseDups_append_singleton (xs : List α) (x : α) :
    (x ∈ xs → (xs ++ [x]).eraseDups = xs.eraseDups) ∧
      (x ∉ xs → (xs ++ [x]).eraseDups = xs.eraseDups ++ [x]) := by
  constructor
  · intro h
    have hnone : [x].removeAll xs = [] := by simp [List.removeAll, h]
    rw [List.eraseDups_append, hnone, List.eraseDups_nil, List.append_nil]
  · intro h
    have hone : [x].removeAll xs = [x] := by simp [List.removeAll, h]
    rw [List.eraseDups_append, hone, List.eraseDups_cons, List.filter_nil, List.eraseDups_nil]

theorem nodup_eraseDups : ∀ xs : List α, xs.eraseDups.Nodup
  | [] => by simp
  | x :: xs => by
    rw [List.eraseDups_cons, List.nodup_cons]
    exact ⟨by simp, nodup_eraseDups _⟩
termination_by xs => xs.length
decreasing_by exact Nat.lt_succ_of_le (List.length_filter_le _ _)

theorem count_eraseDups {xs : List α} {x : α} (h : x ∈ xs) : xs.eraseDups.count x = 1 :=
  List.count_eq_one_of_mem (nodup_eraseDups xs) (List.mem_eraseDups.2 h)

end

/-! ### Gathered entries -/

section

variable {α β : Type} [BEq β]

/-- Entries under their keys. -/
def gathered (key : α → β) (xs : List α) : List (β × List α) :=
  (xs.map key).eraseDups.map fun k => (k, xs.filter fun x => key x == k)

theorem map_fst_gathered (key : α → β) (xs : List α) : (gathered key xs).map Prod.fst = (xs.map key).eraseDups := by
  rw [gathered, List.map_map]
  exact List.map_id _

variable [LawfulBEq β] {key : α → β}

/-- The first key has its entries, and the others are gathered without them. -/
theorem gathered_cons (x : α) (xs : List α) :
    gathered key (x :: xs)
      = (key x, x :: xs.filter fun y => key y == key x) :: gathered key (xs.filter fun y => !key y == key x) := by
  have hkeys : (xs.map key).filter (fun k => !k == key x) = (xs.filter fun y => !key y == key x).map key :=
    List.filter_map
  unfold gathered
  rw [List.map_cons, List.eraseDups_cons, List.map_cons, hkeys, List.filter_cons_of_pos (by simp)]
  congr 1
  refine List.map_congr_left fun k hk => ?_
  obtain ⟨y, hy, rfl⟩ := List.mem_map.1 (List.mem_eraseDups.1 hk)
  have hne : key y ≠ key x := by simpa using (List.mem_filter.1 hy).2
  have hentry : ∀ z, (key z == key y && !key z == key x) = (key z == key y) := by
    intro z
    by_cases hz : key z = key y
    · simp [hz, hne]
    · simp [hz]
  rw [List.filter_filter, List.filter_cons_of_neg (by simpa using hne.symm)]
  simp only [hentry]

theorem flatMap_gathered_cons (x : α) (xs : List α) :
    (gathered key (x :: xs)).flatMap Prod.snd
      = x :: ((xs.filter fun y => key y == key x)
          ++ (gathered key (xs.filter fun y => !key y == key x)).flatMap Prod.snd) := by
  rw [gathered_cons, List.flatMap_cons, List.cons_append]

/-- Gathering keeps every entry as often as it occurs. -/
theorem flatMap_gathered_perm (key : α → β) : ∀ xs, ((gathered key xs).flatMap Prod.snd).Perm xs
  | [] => List.Perm.refl _
  | x :: xs => by
    have hsplit := List.filter_append_perm (fun y => key y == key x) xs
    rw [flatMap_gathered_cons]
    exact (((flatMap_gathered_perm key _).append_left _).trans hsplit).cons x
termination_by xs => xs.length
decreasing_by exact Nat.lt_succ_of_le (List.length_filter_le _ _)

/-- Entries that satisfy a condition are a beginning of a list where no other entry stands in front of them. -/
theorem filter_append_filter_not {p : α → Bool} {xs : List α}
    (h : xs.Pairwise fun a b => p b = true → p a = true) :
    xs.filter p ++ xs.filter (fun x => !p x) = xs := by
  induction xs with
  | nil => rfl
  | cons x xs ih =>
    obtain ⟨hfirst, hrest⟩ := List.pairwise_cons.1 h
    cases hx : p x with
    | true => simp only [List.filter_cons, hx, if_true, Bool.not_true, Bool.false_eq_true, if_false,
        List.cons_append, ih hrest]
    | false =>
      have hnone : ∀ y ∈ xs, p y = false := fun y hy =>
        Bool.eq_false_iff.2 fun hyes => Bool.false_ne_true (hx.symm.trans (hfirst y hy hyes))
      rw [List.filter_eq_nil_iff.2 (by simpa [hx] using hnone), List.nil_append]
      exact List.filter_eq_self.2 (by simpa [hx] using hnone)

/-- Where keys stand in an order, the entries of each are next to each other already. -/
theorem flatMap_gathered_of_pairwise {r : β → β → Prop} (hanti : ∀ a b, r a b → r b a → a = b) :
    ∀ {xs : List α}, (xs.Pairwise fun x y => r (key x) (key y)) → (gathered key xs).flatMap Prod.snd = xs
  | [], _ => rfl
  | x :: xs, h => by
    obtain ⟨hfirst, hrest⟩ := List.pairwise_cons.1 h
    -- an entry in front of one with the first key is between two equal keys
    have hfront : xs.Pairwise fun a b => (key b == key x) = true → (key a == key x) = true := by
      refine hrest.imp_of_mem fun {a b} ha _ hab hkey => ?_
      rw [beq_iff_eq] at hkey ⊢
      exact hanti _ _ (hkey ▸ hab) (hfirst a ha)
    rw [flatMap_gathered_cons, flatMap_gathered_of_pairwise hanti (hrest.filter _), filter_append_filter_not hfront]
termination_by xs => xs.length
decreasing_by exact Nat.lt_succ_of_le (List.length_filter_le _ _)

end

end SuppressionAudit

/-!
# Stable sorting

Sorted answers keep the order of entries that compare equal. Insertion from the right gives this
directly: an entry goes before the first entry that is not smaller than it.
-/

namespace SuppressionAudit

/-- Puts `x` before the first entry that it does not exceed. -/
def insertSorted {α : Type} (le : α → α → Bool) (x : α) : List α → List α
  | [] => [x]
  | y :: ys => if le x y then x :: y :: ys else y :: insertSorted le x ys

/-- The entries of a list in order, equal ones as they stood. -/
def stableSort {α : Type} (le : α → α → Bool) : List α → List α
  | [] => []
  | x :: xs => insertSorted le x (stableSort le xs)

variable {α : Type} (le : α → α → Bool)

theorem insertSorted_perm (x : α) (xs : List α) : (insertSorted le x xs).Perm (x :: xs) := by
  induction xs with
  | nil => exact List.Perm.refl _
  | cons y ys ih =>
    unfold insertSorted
    split
    · exact List.Perm.refl _
    · exact (ih.cons y).trans (List.Perm.swap x y ys)

theorem stableSort_perm (xs : List α) : (stableSort le xs).Perm xs := by
  induction xs with
  | nil => exact List.Perm.refl _
  | cons x xs ih => exact (insertSorted_perm le x _).trans (ih.cons x)

theorem mem_stableSort {x : α} {xs : List α} : x ∈ stableSort le xs ↔ x ∈ xs :=
  (stableSort_perm le xs).mem_iff

theorem length_stableSort (xs : List α) : (stableSort le xs).length = xs.length :=
  (stableSort_perm le xs).length_eq

theorem stableSort_eq_self {xs : List α} (h : xs.Pairwise fun a b => le a b = true) :
    stableSort le xs = xs := by
  induction h with
  | nil => rfl
  | cons h _ ih =>
    rw [stableSort, ih]
    cases h' : (‹List α› : List α) with
    | nil => rfl
    | cons y ys => rw [insertSorted, if_pos (h y (h' ▸ List.mem_cons_self))]

end SuppressionAudit

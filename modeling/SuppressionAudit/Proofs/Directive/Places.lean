import Mathlib.Data.List.Induction
import Mathlib.Data.List.Sort
import SuppressionAudit.Directive.Position

/-!
# Places in a text

The position of an offset is said twice: reading the text before it ends there, and it is the number of
newlines before the offset and the distance back to the last of them. What stands in a text is listed by
offset; such a list is determined by what it lists.
-/

namespace SuppressionAudit

/-! ### Positions of offsets -/

/-- The position of an offset: one more than the newlines before it, and one more than the characters
between the last newline and it. -/
def positionAt (content : Text) (offset : Nat) : Position :=
  ⟨(content.take offset).count '\n' + 1,
    ((content.take offset).reverse.takeWhile fun c => c != '\n').length + 1⟩

namespace Position

theorem start_after (s : Text) :
    start.after s = ⟨s.count '\n' + 1, (s.reverse.takeWhile fun c => c != '\n').length + 1⟩ := by
  induction s using List.reverseRecOn with
  | nil => rfl
  | append_singleton s c ih =>
    rw [after_append, ih, after_cons, after_nil]
    by_cases hc : c = '\n'
    · subst hc
      simp [next, List.count_append]
    · simp [next, hc, List.count_append]

theorem start_after_take (content : Text) (offset : Nat) :
    start.after (content.take offset) = positionAt content offset := start_after _

end Position

theorem positionAt_add (content : Text) (i n : Nat) :
    (positionAt content i).after ((content.drop i).take n) = positionAt content (i + n) := by
  rw [← Position.start_after_take, ← Position.start_after_take, ← Position.after_append,
    List.take_add]

/-! ### Lists by offset -/

/-- `entries` are the things for which `holds` is true, each once, in the order of their places. -/
structure Enumerates {α : Type} (place : α → Nat) (holds : α → Prop) (entries : List α) : Prop where
  ordered : entries.Pairwise fun a b => place a < place b
  mem_iff : ∀ a, a ∈ entries ↔ holds a

theorem eq_of_ordered_of_mem_iff {α : Type} {place : α → Nat} {xs ys : List α}
    (hx : xs.Pairwise fun a b => place a < place b) (hy : ys.Pairwise fun a b => place a < place b)
    (h : ∀ a, a ∈ xs ↔ a ∈ ys) : xs = ys := by
  have : Std.Irrefl fun a b : α => place a < place b := ⟨fun a => Nat.lt_irrefl _⟩
  have : Std.Antisymm fun a b : α => place a < place b :=
    ⟨fun a b hab hba => absurd hab (Nat.lt_asymm hba)⟩
  exact List.Pairwise.eq_of_mem_iff hx hy h

namespace Enumerates

variable {α : Type} {place : α → Nat} {holds : α → Prop}

theorem unique {xs ys : List α} (hx : Enumerates place holds xs) (hy : Enumerates place holds ys) :
    xs = ys :=
  eq_of_ordered_of_mem_iff hx.ordered hy.ordered fun a => (hx.mem_iff a).trans (hy.mem_iff a).symm

theorem nodup {entries : List α} (h : Enumerates place holds entries) : entries.Nodup :=
  h.ordered.imp fun hlt heq => absurd (congrArg place heq) (Nat.ne_of_lt hlt)

theorem of_reader {n : Nat} {read : Nat → Option α}
    (hread : ∀ i a, read i = some a ↔ holds a ∧ place a = i) (hbound : ∀ a, holds a → place a < n) :
    Enumerates place holds ((List.range n).filterMap read) := by
  constructor
  · refine List.Pairwise.filterMap read ?_ List.pairwise_lt_range
    intro i j hij a ha b hb
    rw [((hread i a).1 ha).2, ((hread j b).1 hb).2]
    exact hij
  · intro a
    rw [List.mem_filterMap]
    constructor
    · rintro ⟨i, -, hi⟩
      exact ((hread i a).1 hi).1
    · intro ha
      exact ⟨place a, List.mem_range.2 (hbound a ha), (hread _ a).2 ⟨ha, rfl⟩⟩

end Enumerates

/-! ### Scans -/

theorem drop_succ_of_drop_eq_cons {α : Type} {whole rest : List α} {x : α} {i : Nat}
    (h : whole.drop i = x :: rest) : whole.drop (i + 1) = rest := by
  rw [← List.drop_drop, h]
  rfl

theorem flatMap_filterMap {α β γ : Type} (read : α → Option β) (out : β → List γ) (xs : List α) :
    (xs.filterMap read).flatMap out = xs.flatMap fun x => (read x).toList.flatMap out := by
  rw [List.filterMap_eq_flatMap_toList, List.flatMap_assoc]

/-- A scan that puts out, at each offset in turn, what a reader finds there. -/
theorem scan_eq_flatMap_filterMap {α β γ : Type} {whole : List α} {scan : Nat → List α → List γ}
    {read : Nat → Option β} {out : β → List γ} (hnil : ∀ i, scan i [] = [])
    (hcons : ∀ i x rest, whole.drop i = x :: rest →
      scan i (x :: rest) = (read i).toList.flatMap out ++ scan (i + 1) rest) :
    scan 0 whole = ((List.range whole.length).filterMap read).flatMap out := by
  have hfrom : ∀ rest i, whole.drop i = rest →
      scan i rest = (List.range' i rest.length).flatMap fun j => (read j).toList.flatMap out := by
    intro rest
    induction rest with
    | nil =>
      intro i _
      exact hnil i
    | cons x rest ih =>
      intro i hrest
      rw [hcons i x rest hrest, ih (i + 1) (drop_succ_of_drop_eq_cons hrest), List.length_cons,
        List.range'_succ, List.flatMap_cons]
  rw [flatMap_filterMap, List.range_eq_range']
  exact hfrom whole 0 List.drop_zero

end SuppressionAudit

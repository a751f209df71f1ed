import SuppressionAudit.Glob.Cover

/-!
# What covers

A cover cuts the elements into consecutive groups, and so does a cover of one list of parts followed by
another: the elements are cut once more, between the two. From this follows what can be changed in a
list without losing its cover: the last element, when every part that takes the old one takes the new
one, and all elements at once, when every part takes every new one.
-/

namespace SuppressionAudit

theorem Text.mem_tails_iff {α : Type} {xs ys : List α} : ys ∈ Text.tails xs ↔ ys <:+ xs := by
  induction xs with
  | nil => simp [Text.tails]
  | cons x xs ih => rw [Text.tails, List.mem_cons, ih, List.suffix_cons_iff]

namespace Cover

variable {π α : Type} {isGroup : π → Bool} {holds : π → α → Bool} {part : π} {parts more : List π}
  {xs : List α}

theorem covers_nil_iff : covers isGroup holds [] xs = true ↔ xs = [] := by
  simp [covers]

theorem covers_group_iff (h : isGroup part = true) :
    covers isGroup holds (part :: parts) xs = true ↔
      ∃ front rest, xs = front ++ rest ∧ covers isGroup holds parts rest = true := by
  simp only [covers, h, if_true, List.any_eq_true, Text.mem_tails_iff]
  constructor
  · rintro ⟨rest, ⟨front, hxs⟩, hrest⟩
    exact ⟨front, rest, hxs.symm, hrest⟩
  · rintro ⟨front, rest, hxs, hrest⟩
    exact ⟨rest, ⟨front, hxs.symm⟩, hrest⟩

theorem covers_one_iff (h : isGroup part = false) :
    covers isGroup holds (part :: parts) xs = true ↔
      ∃ x rest, xs = x :: rest ∧ holds part x = true ∧ covers isGroup holds parts rest = true := by
  cases xs with
  | nil => simp [covers, h]
  | cons x rest =>
    simp only [covers, h, Bool.false_eq_true, if_false, Bool.and_eq_true]
    constructor
    · rintro ⟨hx, hrest⟩
      exact ⟨x, rest, rfl, hx, hrest⟩
    · rintro ⟨y, ys, hxs, hy, hys⟩
      obtain ⟨rfl, rfl⟩ := List.cons.inj hxs
      exact ⟨hy, hys⟩

theorem covers_append_iff :
    covers isGroup holds (parts ++ more) xs = true ↔
      ∃ front rest, xs = front ++ rest ∧ covers isGroup holds parts front = true ∧
        covers isGroup holds more rest = true := by
  induction parts generalizing xs with
  | nil =>
    rw [List.nil_append]
    constructor
    · intro h
      exact ⟨[], xs, rfl, rfl, h⟩
    · rintro ⟨front, rest, rfl, hfront, hrest⟩
      rw [covers_nil_iff.1 hfront]
      exact hrest
  | cons part parts ih =>
    rw [List.cons_append]
    cases h : isGroup part with
    | true =>
      rw [covers_group_iff h]
      constructor
      · rintro ⟨taken, left, rfl, hleft⟩
        obtain ⟨front, rest, rfl, hfront, hrest⟩ := ih.1 hleft
        refine ⟨taken ++ front, rest, (List.append_assoc _ _ _).symm, ?_, hrest⟩
        exact (covers_group_iff h).2 ⟨taken, front, rfl, hfront⟩
      · rintro ⟨front, rest, rfl, hfront, hrest⟩
        obtain ⟨taken, left, rfl, hleft⟩ := (covers_group_iff h).1 hfront
        refine ⟨taken, left ++ rest, List.append_assoc _ _ _, ?_⟩
        exact ih.2 ⟨left, rest, rfl, hleft, hrest⟩
    | false =>
      rw [covers_one_iff h]
      constructor
      · rintro ⟨x, left, rfl, hx, hleft⟩
        obtain ⟨front, rest, rfl, hfront, hrest⟩ := ih.1 hleft
        exact ⟨x :: front, rest, rfl, (covers_one_iff h).2 ⟨x, front, rfl, hx, hfront⟩, hrest⟩
      · rintro ⟨front, rest, rfl, hfront, hrest⟩
        obtain ⟨x, left, rfl, hx, hleft⟩ := (covers_one_iff h).1 hfront
        exact ⟨x, left ++ rest, rfl, hx, ih.2 ⟨left, rest, rfl, hleft, hrest⟩⟩

theorem covers_around_group_iff (h : isGroup part = true) :
    covers isGroup holds (parts ++ part :: more) xs = true ↔
      ∃ front middle rest, xs = front ++ middle ++ rest ∧ covers isGroup holds parts front = true ∧
        covers isGroup holds more rest = true := by
  rw [covers_append_iff]
  constructor
  · rintro ⟨front, left, rfl, hfront, hleft⟩
    obtain ⟨middle, rest, rfl, hrest⟩ := (covers_group_iff h).1 hleft
    exact ⟨front, middle, rest, (List.append_assoc _ _ _).symm, hfront, hrest⟩
  · rintro ⟨front, middle, rest, rfl, hfront, hrest⟩
    refine ⟨front, middle ++ rest, List.append_assoc _ _ _, hfront, ?_⟩
    exact (covers_group_iff h).2 ⟨middle, rest, rfl, hrest⟩

theorem length_eq_of_covers (hone : ∀ p ∈ parts, isGroup p = false)
    (h : covers isGroup holds parts xs = true) : xs.length = parts.length := by
  induction parts generalizing xs with
  | nil =>
    rw [covers_nil_iff.1 h]
    rfl
  | cons part parts ih =>
    obtain ⟨x, rest, rfl, -, hrest⟩ := (covers_one_iff (hone part List.mem_cons_self)).1 h
    have hlen := ih (fun p hp => hone p (List.mem_cons_of_mem _ hp)) hrest
    rw [List.length_cons, List.length_cons, hlen]

theorem exists_held_of_covers {p : π} (hp : p ∈ parts) (hone : isGroup p = false)
    (h : covers isGroup holds parts xs = true) : ∃ x ∈ xs, holds p x = true := by
  obtain ⟨before, after, rfl⟩ := List.append_of_mem hp
  obtain ⟨front, rest, rfl, -, hrest⟩ := covers_append_iff.1 h
  obtain ⟨x, left, rfl, hx, -⟩ := (covers_one_iff hone).1 hrest
  exact ⟨x, List.mem_append_right _ List.mem_cons_self, hx⟩

theorem covers_replace_last {x y : α}
    (h : ∀ p ∈ parts, isGroup p = false → holds p x = true → holds p y = true)
    (hc : covers isGroup holds parts (xs ++ [x]) = true) :
    covers isGroup holds parts (xs ++ [y]) = true := by
  induction parts generalizing xs with
  | nil => exact absurd (covers_nil_iff.1 hc) (by simp)
  | cons part parts ih =>
    have hlater : ∀ p ∈ parts, isGroup p = false → holds p x = true → holds p y = true :=
      fun p hp => h p (List.mem_cons_of_mem _ hp)
    cases hpart : isGroup part with
    | true =>
      obtain ⟨front, rest, hxs, hrest⟩ := (covers_group_iff hpart).1 hc
      refine (covers_group_iff hpart).2 ?_
      rcases List.eq_nil_or_concat rest with rfl | ⟨rest, z, rfl⟩
      · exact ⟨xs ++ [y], [], (List.append_nil _).symm, hrest⟩
      · rw [List.concat_eq_append] at hxs hrest
        rw [← List.append_assoc] at hxs
        obtain ⟨rfl, hz⟩ := List.append_inj' hxs rfl
        obtain rfl : x = z := List.head_eq_of_cons_eq hz
        exact ⟨front, rest ++ [y], List.append_assoc _ _ _, ih hlater hrest⟩
    | false =>
      obtain ⟨z, rest, hxs, hz, hrest⟩ := (covers_one_iff hpart).1 hc
      refine (covers_one_iff hpart).2 ?_
      cases xs with
      | nil =>
        obtain ⟨rfl, rfl⟩ := List.cons.inj hxs
        exact ⟨y, [], rfl, h part List.mem_cons_self hpart hz, hrest⟩
      | cons w xs =>
        obtain ⟨rfl, rfl⟩ := List.cons.inj hxs
        exact ⟨w, xs ++ [y], rfl, hz, ih hlater hrest⟩

theorem covers_replace_all {ys : List α} (h : ∀ p ∈ parts, ∀ y ∈ ys, holds p y = true)
    (hlen : ys.length = xs.length) (hc : covers isGroup holds parts xs = true) :
    covers isGroup holds parts ys = true := by
  induction parts generalizing xs ys with
  | nil =>
    rw [covers_nil_iff.1 hc] at hlen
    exact covers_nil_iff.2 (List.length_eq_zero_iff.1 hlen)
  | cons part parts ih =>
    have hlater : ∀ p ∈ parts, ∀ y ∈ ys, holds p y = true :=
      fun p hp => h p (List.mem_cons_of_mem _ hp)
    cases hpart : isGroup part with
    | true =>
      obtain ⟨front, rest, rfl, hrest⟩ := (covers_group_iff hpart).1 hc
      rw [List.length_append] at hlen
      refine (covers_group_iff hpart).2
        ⟨ys.take front.length, ys.drop front.length, (List.take_append_drop _ _).symm, ?_⟩
      refine ih (fun p hp y hy => hlater p hp y (List.mem_of_mem_drop hy)) ?_ hrest
      rw [List.length_drop]
      omega
    | false =>
      obtain ⟨x, rest, rfl, -, hrest⟩ := (covers_one_iff hpart).1 hc
      cases ys with
      | nil => simp at hlen
      | cons y ys =>
        have hy : holds part y = true := h part List.mem_cons_self y List.mem_cons_self
        have htail : ∀ p ∈ parts, ∀ z ∈ ys, holds p z = true :=
          fun p hp z hz => hlater p hp z (List.mem_cons_of_mem _ hz)
        exact (covers_one_iff hpart).2 ⟨y, ys, rfl, hy, ih htail (Nat.succ.inj hlen) hrest⟩

/-- The last element makes room for others, when every part takes all of them and all in front of it. -/
theorem covers_replace_last_by_many {x : α} {ys : List α} (hne : ys ≠ [])
    (h : ∀ p ∈ parts, ∀ y ∈ xs ++ ys, holds p y = true)
    (hc : covers isGroup holds parts (xs ++ [x]) = true) :
    ∃ front rest, xs ++ ys = front ++ rest ∧ covers isGroup holds parts rest = true := by
  have hpos := List.length_pos_iff.2 hne
  refine ⟨(xs ++ ys).take (ys.length - 1), (xs ++ ys).drop (ys.length - 1),
    (List.take_append_drop _ _).symm, ?_⟩
  refine covers_replace_all ?_ ?_ hc
  · exact fun p hp y hy => h p hp y (List.mem_of_mem_drop hy)
  · simp only [List.length_drop, List.length_append, List.length_singleton]
    omega

end Cover

end SuppressionAudit

import SuppressionAudit.StableSort

/-!
# What a stable sort is

A sorted list is described apart from how it is made: its entries stand in order, and the entries that
tie with a given one stand as they stood before. The description leaves no choice, and the sort of
`StableSort` meets it for every comparison that is total and transitive. That sorting and leaving out
entries can be done in either order is a consequence, and so is that a part whose entries are all below
the others is sorted on its own.
-/

namespace SuppressionAudit

variable {α : Type} {le : α → α → Bool}

structure Ranks (le : α → α → Bool) : Prop where
  total : ∀ a b, le a b = true ∨ le b a = true
  trans : ∀ a b c, le a b = true → le b c = true → le a c = true

def ties (le : α → α → Bool) (a b : α) : Bool := le a b && le b a

/-- `ys` holds the entries of `xs` in order, tied ones as they stood. -/
structure StablySorts (le : α → α → Bool) (xs ys : List α) : Prop where
  ordered : ys.Pairwise fun a b => le a b = true
  kept : ∀ a, ys.filter (ties le a) = xs.filter (ties le a)

theorem Ranks.ties_self (h : Ranks le) (a : α) : ties le a a = true := by
  have haa : le a a = true := (h.total a a).elim id id
  simp [ties, haa]

/-! ### The sort meets the description -/

theorem insertSorted_ordered (h : Ranks le) (x : α) {xs : List α}
    (hs : xs.Pairwise fun a b => le a b = true) :
    (insertSorted le x xs).Pairwise fun a b => le a b = true := by
  induction xs with
  | nil => simp [insertSorted]
  | cons y ys ih =>
    have hy := List.pairwise_cons.1 hs
    unfold insertSorted
    split
    · next hxy =>
      refine List.pairwise_cons.2 ⟨?_, hs⟩
      intro b hb
      rcases List.mem_cons.1 hb with rfl | hb
      · exact hxy
      · exact h.trans x y b hxy (hy.1 b hb)
    · next hxy =>
      have hyx : le y x = true := (h.total x y).resolve_left hxy
      refine List.pairwise_cons.2 ⟨?_, ih hy.2⟩
      intro b hb
      rcases List.mem_cons.1 ((insertSorted_perm le x ys).mem_iff.1 hb) with rfl | hb
      · exact hyx
      · exact hy.1 b hb

/-- An inserted entry comes before the entries that it ties with. -/
theorem filter_insertSorted (h : Ranks le) (a x : α) (xs : List α) :
    (insertSorted le x xs).filter (ties le a) = (x :: xs).filter (ties le a) := by
  induction xs with
  | nil => rfl
  | cons y ys ih =>
    unfold insertSorted
    split
    · rfl
    · next hxy =>
      by_cases hx : ties le a x = true
      · -- `y` is passed because it is smaller than `x`, so it does not tie with `a` when `x` does
        have hy : ¬ ties le a y = true := by
          intro hy
          simp only [ties, Bool.and_eq_true] at hx hy
          exact hxy (h.trans x a y hx.2 hy.1)
        rw [List.filter_cons_of_neg hy, ih, List.filter_cons_of_pos hx,
          List.filter_cons_of_pos hx, List.filter_cons_of_neg hy]
      · rw [List.filter_cons_of_neg hx] at ih
        rw [List.filter_cons_of_neg hx, List.filter_cons, List.filter_cons, ih]

theorem stablySorts_stableSort (h : Ranks le) (xs : List α) :
    StablySorts le xs (stableSort le xs) := by
  induction xs with
  | nil => exact ⟨List.Pairwise.nil, fun _ => rfl⟩
  | cons x xs ih =>
    refine ⟨insertSorted_ordered h x ih.ordered, ?_⟩
    intro a
    rw [stableSort, filter_insertSorted h, List.filter_cons, List.filter_cons, ih.kept a]

/-! ### The description leaves no choice -/

theorem StablySorts.mem_iff (h : Ranks le) {xs ys : List α} (hs : StablySorts le xs ys) (a : α) :
    a ∈ ys ↔ a ∈ xs := by
  have hy : a ∈ ys ↔ a ∈ ys.filter (ties le a) := by simp [List.mem_filter, h.ties_self a]
  have hx : a ∈ xs ↔ a ∈ xs.filter (ties le a) := by simp [List.mem_filter, h.ties_self a]
  rw [hy, hx, hs.kept a]

theorem Ranks.le_of_mem_cons (h : Ranks le) {x y : α} {ys : List α}
    (hy : (y :: ys).Pairwise fun a b => le a b = true) (hx : x ∈ y :: ys) : le y x = true := by
  rcases List.mem_cons.1 hx with rfl | hx
  · exact (h.total x x).elim id id
  · exact (List.pairwise_cons.1 hy).1 x hx

theorem eq_of_ordered_of_filter_eq (h : Ranks le) {ys zs : List α}
    (hy : ys.Pairwise fun a b => le a b = true) (hz : zs.Pairwise fun a b => le a b = true)
    (hk : ∀ a, ys.filter (ties le a) = zs.filter (ties le a)) : ys = zs := by
  have hmem : ∀ a, a ∈ ys ↔ a ∈ zs := fun a => StablySorts.mem_iff h ⟨hy, hk⟩ a
  induction ys generalizing zs with
  | nil =>
    cases zs with
    | nil => rfl
    | cons z zs => exact absurd ((hmem z).2 List.mem_cons_self) List.not_mem_nil
  | cons y ys ih =>
    cases zs with
    | nil => exact absurd ((hmem y).1 List.mem_cons_self) List.not_mem_nil
    | cons z zs =>
      have hyz : le y z = true := h.le_of_mem_cons hy ((hmem z).2 List.mem_cons_self)
      have hzy : le z y = true := h.le_of_mem_cons hz ((hmem y).1 List.mem_cons_self)
      have hhead : y = z := by
        have hyy := hk y
        rw [List.filter_cons_of_pos (h.ties_self y),
          List.filter_cons_of_pos (by simp [ties, hyz, hzy])] at hyy
        exact (List.cons.inj hyy).1
      subst hhead
      have hkept : ∀ a, ys.filter (ties le a) = zs.filter (ties le a) := by
        intro a
        have ha := hk a
        by_cases hay : ties le a y = true
        · rw [List.filter_cons_of_pos hay, List.filter_cons_of_pos hay] at ha
          exact (List.cons.inj ha).2
        · rwa [List.filter_cons_of_neg hay, List.filter_cons_of_neg hay] at ha
      have hys := (List.pairwise_cons.1 hy).2
      have htail : ys = zs :=
        ih hys (List.pairwise_cons.1 hz).2 hkept fun a => StablySorts.mem_iff h ⟨hys, hkept⟩ a
      rw [htail]

theorem StablySorts.eq_stableSort (h : Ranks le) {xs ys : List α} (hs : StablySorts le xs ys) :
    ys = stableSort le xs := by
  have hsort := stablySorts_stableSort h xs
  exact eq_of_ordered_of_filter_eq h hs.ordered hsort.ordered fun a =>
    (hs.kept a).trans (hsort.kept a).symm

theorem stableSort_filter (h : Ranks le) (keep : α → Bool) (xs : List α) :
    stableSort le (xs.filter keep) = (stableSort le xs).filter keep := by
  have hsort := stablySorts_stableSort h xs
  refine (StablySorts.eq_stableSort h ⟨hsort.ordered.filter keep, fun a => ?_⟩).symm
  have swap : ∀ ys : List α, (ys.filter keep).filter (ties le a) = (ys.filter (ties le a)).filter keep := by
    intro ys
    simp only [List.filter_filter, Bool.and_comm]
  rw [swap, hsort.kept a, swap]

/-- What lies below everything else is sorted on its own and comes first. -/
theorem stableSort_eq_append_of_below (h : Ranks le) {low : α → Bool}
    (hlow : ∀ x y, low x = true → low y = false → le y x = false) (xs : List α) :
    stableSort le xs
      = stableSort le (xs.filter low) ++ stableSort le (xs.filter fun x => !low x) := by
  rw [stableSort_filter h, stableSort_filter h]
  have hsort := stablySorts_stableSort h xs
  refine (StablySorts.eq_stableSort h ⟨?_, fun a => ?_⟩).symm
  · refine List.pairwise_append.2 ⟨hsort.ordered.filter _, hsort.ordered.filter _, ?_⟩
    intro x hx y hy
    have hxy := hlow x y (List.mem_filter.1 hx).2 (by simpa using (List.mem_filter.1 hy).2)
    exact (h.total x y).resolve_right (by simp [hxy])
  · -- all that ties with an entry is on its side
    have hside : ∀ x, ties le a x = true → low x = low a := by
      intro x hx
      simp only [ties, Bool.and_eq_true] at hx
      cases ha : low a <;> cases hx' : low x
      · rfl
      · exact absurd hx.1 (by simp [hlow x a hx' ha])
      · exact absurd hx.2 (by simp [hlow a x ha hx'])
      · rfl
    have hlows : ∀ x, (ties le a x && low x) = (ties le a x && low a) := by
      intro x
      cases hx : ties le a x with
      | false => rfl
      | true => rw [hside x hx]
    have hothers : ∀ x, (ties le a x && !low x) = (ties le a x && !low a) := by
      intro x
      cases hx : ties le a x with
      | false => rfl
      | true => rw [hside x hx]
    rw [List.filter_append, List.filter_filter, List.filter_filter, ← hsort.kept a]
    simp only [hlows, hothers]
    cases low a <;> simp

/-- Two lists that each hold lower entries first are sorted part by part. -/
theorem stableSort_interleaved (h : Ranks le) {low : α → Bool}
    (hlow : ∀ x y, low x = true → low y = false → le y x = false) {xs xs' ys ys' : List α}
    (hfirst : ∀ x ∈ xs ++ ys, low x = true) (hsecond : ∀ x ∈ xs' ++ ys', low x = false) :
    stableSort le ((xs ++ xs') ++ (ys ++ ys')) = stableSort le (xs ++ ys) ++ stableSort le (xs' ++ ys') := by
  simp only [List.forall_mem_append] at hfirst hsecond
  have hlows : ((xs ++ xs') ++ (ys ++ ys')).filter low = xs ++ ys := by
    simp [List.filter_append, List.filter_eq_self.2 hfirst.1, List.filter_eq_self.2 hfirst.2,
      List.filter_eq_nil_iff.2 fun x hx => Bool.eq_false_iff.1 (hsecond.1 x hx),
      List.filter_eq_nil_iff.2 fun x hx => Bool.eq_false_iff.1 (hsecond.2 x hx)]
  have hothers : ((xs ++ xs') ++ (ys ++ ys')).filter (fun x => !low x) = xs' ++ ys' := by
    have hout : ∀ {zs : List α}, (∀ x ∈ zs, low x = true) → zs.filter (fun x => !low x) = [] :=
      fun hzs => List.filter_eq_nil_iff.2 fun x hx => by simp [hzs x hx]
    have hin : ∀ {zs : List α}, (∀ x ∈ zs, low x = false) → zs.filter (fun x => !low x) = zs :=
      fun hzs => List.filter_eq_self.2 fun x hx => by simp [hzs x hx]
    simp only [List.filter_append, hout hfirst.1, hout hfirst.2, hin hsecond.1, hin hsecond.2,
      List.nil_append]
  rw [stableSort_eq_append_of_below h hlow, hlows, hothers]

theorem insertSorted_map {f : α → α} (hf : ∀ x y, le (f x) (f y) = le x y) (x : α) (xs : List α) :
    insertSorted le (f x) (xs.map f) = (insertSorted le x xs).map f := by
  induction xs with
  | nil => rfl
  | cons y ys ih =>
    rw [List.map_cons, insertSorted, insertSorted, hf, ih]
    split <;> rfl

/-- Entries that are all changed in a way that the comparison does not see are sorted as before. -/
theorem stableSort_map {f : α → α} (hf : ∀ x y, le (f x) (f y) = le x y) (xs : List α) :
    stableSort le (xs.map f) = (stableSort le xs).map f := by
  induction xs with
  | nil => rfl
  | cons x xs ih => rw [List.map_cons, stableSort, stableSort, ih, insertSorted_map hf]

end SuppressionAudit

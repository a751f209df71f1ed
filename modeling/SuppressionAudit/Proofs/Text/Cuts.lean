import SuppressionAudit.Text.LineBreak

/-!
# Where a text is cut

Texts are cut at the first occurrence of a literal, at every occurrence of a character, and behind what
is left when the carriage returns at the end are gone. Each cut is described by the place where it is
made. Pieces that were put together with a separator come back when they are cut at it.
-/

namespace SuppressionAudit

/-- `before` is what a text holds in front of the first occurrence of a literal, and `after` what it
holds behind it. -/
structure SplitsAtFirst (literal s before after : Text) : Prop where
  eq : s = before ++ literal ++ after
  first : ∀ j < before.length, ¬ literal <+: s.drop j

namespace Text

/-! ### Literals -/

theorem dropLiteral?_eq_some_iff {literal s rest : Text} :
    dropLiteral? literal s = some rest ↔ s = literal ++ rest := by
  constructor
  · exact dropLiteral?_eq_some
  · rintro rfl
    exact dropLiteral?_append literal rest

theorem dropLiteral?_eq_none_iff {literal s : Text} : dropLiteral? literal s = none ↔ ¬ literal <+: s := by
  constructor
  · rintro h ⟨rest, rfl⟩
    rw [dropLiteral?_append] at h
    simp at h
  · intro h
    cases hd : dropLiteral? literal s with
    | none => rfl
    | some rest => exact absurd ⟨rest, (dropLiteral?_eq_some hd).symm⟩ h

theorem splitAtFirst?_eq_some_iff {literal : Text} (hne : literal ≠ []) {s before after : Text} :
    splitAtFirst? literal s = some (before, after) ↔ SplitsAtFirst literal s before after := by
  constructor
  · intro h
    refine ⟨splitAtFirst?_eq_some h, ?_⟩
    induction s generalizing before with
    | nil => simp [splitAtFirst?] at h
    | cons c s ih =>
      unfold splitAtFirst? at h
      split at h
      · simp only [Option.some.injEq, Prod.mk.injEq] at h
        rw [← h.1]
        simp
      · next hd =>
        obtain ⟨p, hp, he⟩ := Option.map_eq_some_iff.1 h
        simp only [Prod.mk.injEq] at he
        obtain ⟨rfl, rfl⟩ := he
        intro j hj
        cases j with
        | zero => exact dropLiteral?_eq_none_iff.1 hd
        | succ j => exact ih hp j (by simpa using hj)
  · rintro ⟨heq, hfirst⟩
    induction before generalizing s with
    | nil =>
      cases s with
      | nil => simp [hne] at heq
      | cons c s =>
        have hd : dropLiteral? literal (c :: s) = some after := dropLiteral?_eq_some_iff.2 heq
        simp [splitAtFirst?, hd]
    | cons c before ih =>
      subst heq
      have hd : dropLiteral? literal (c :: (before ++ literal ++ after)) = none :=
        dropLiteral?_eq_none_iff.2 (hfirst 0 (by simp))
      have hrest : splitAtFirst? literal (before ++ literal ++ after) = some (before, after) := by
        refine ih rfl fun j hj => ?_
        exact hfirst (j + 1) (by simpa using hj)
      simp only [List.cons_append, splitAtFirst?, hd, hrest, Option.map_some]

theorem splitAtFirst?_eq_none_iff {literal : Text} (hne : literal ≠ []) {s : Text} :
    splitAtFirst? literal s = none ↔ ¬ literal <:+: s := by
  induction s with
  | nil => simp [splitAtFirst?, hne]
  | cons c s ih =>
    rw [List.infix_cons_iff, not_or, ← ih, ← dropLiteral?_eq_none_iff]
    cases hd : dropLiteral? literal (c :: s) with
    | none => simp [splitAtFirst?, hd]
    | some rest => simp [splitAtFirst?, hd]

/-- A cut stays where it is when more text follows. -/
theorem splitAtFirst?_append {literal s before after : Text} (hne : literal ≠ [])
    (h : splitAtFirst? literal s = some (before, after)) (t : Text) :
    splitAtFirst? literal (s ++ t) = some (before, after ++ t) := by
  rw [splitAtFirst?_eq_some_iff hne] at h ⊢
  obtain ⟨rfl, hfirst⟩ := h
  refine ⟨by simp only [List.append_assoc], fun j hj hprefix => hfirst j hj ?_⟩
  have hle : literal.length ≤ ((before ++ literal ++ after).drop j).length := by
    simp only [List.length_drop, List.length_append]
    omega
  rw [List.drop_append_of_le_length (by simp only [List.length_append]; omega)] at hprefix
  exact List.prefix_of_prefix_length_le hprefix (List.prefix_append _ t) hle

/-! ### Separators -/

theorem splitOn_eq (sep : Char) (s : Text) : splitOn sep s = List.splitOn sep s := by
  induction s with
  | nil => rfl
  | cons c s ih =>
    rw [List.splitOn_cons_eq_if_modifyHead, ← ih]
    by_cases hc : c = sep
    · simp [splitOn, hc]
    · simp only [splitOn, hc, if_false, beq_iff_eq]
      cases hs : splitOn sep s with
      | nil => exact absurd hs (splitOn_ne_nil sep s)
      | cons piece pieces => rfl

/-- A separator between two texts is a cut of its own. -/
theorem splitOn_append (sep : Char) (s t : Text) :
    splitOn sep (s ++ sep :: t) = splitOn sep s ++ splitOn sep t := by
  rw [splitOn_eq, splitOn_eq, splitOn_eq, List.splitOn_append_cons_self]

theorem splitOn_of_notMem {sep : Char} {s : Text} (h : sep ∉ s) : splitOn sep s = [s] := by
  rw [splitOn_eq]
  exact List.splitOn_eq_singleton h

theorem splitOn_cons_append {sep : Char} {s : Text} (h : sep ∉ s) (t : Text) :
    splitOn sep (s ++ sep :: t) = s :: splitOn sep t := by
  rw [splitOn_append, splitOn_of_notMem h, List.singleton_append]

theorem length_splitOn (sep : Char) (s : Text) : (splitOn sep s).length = s.count sep + 1 := by
  induction s with
  | nil => rfl
  | cons c s ih =>
    by_cases hc : c = sep
    · simp [splitOn, hc, ih]
    · rw [splitOn_eq] at ih
      rw [splitOn_eq, List.splitOn_cons_eq_if_modifyHead]
      simp [hc, ih]

theorem notMem_of_mem_splitOn {sep : Char} {s piece : Text} (h : piece ∈ splitOn sep s) :
    sep ∉ piece := by
  induction s generalizing piece with
  | nil =>
    rw [List.mem_singleton.1 h]
    exact List.not_mem_nil
  | cons c s ih =>
    by_cases hc : c = sep
    · simp only [splitOn, hc, if_true] at h
      rcases List.mem_cons.1 h with rfl | h
      · exact List.not_mem_nil
      · exact ih h
    · simp only [splitOn, hc, if_false] at h
      cases hs : splitOn sep s with
      | nil => exact absurd hs (splitOn_ne_nil sep s)
      | cons first rest =>
        rw [hs] at h ih
        rcases List.mem_cons.1 h with rfl | h
        · rw [List.mem_cons, not_or]
          exact ⟨fun e => hc e.symm, ih List.mem_cons_self⟩
        · exact ih (List.mem_cons_of_mem _ h)

theorem splitOn_joinWith {sep : Char} {pieces : List Text} (hne : pieces ≠ [])
    (h : ∀ piece ∈ pieces, sep ∉ piece) : splitOn sep (joinWith [sep] pieces) = pieces := by
  induction pieces with
  | nil => exact absurd rfl hne
  | cons first rest ih =>
    have hfirst : sep ∉ first := h first List.mem_cons_self
    cases rest with
    | nil => exact splitOn_of_notMem hfirst
    | cons next more =>
      have hrest := ih (List.cons_ne_nil _ _) fun piece hp => h piece (List.mem_cons_of_mem _ hp)
      rw [joinWith, List.append_assoc, List.singleton_append, splitOn_cons_append hfirst, hrest]

theorem joinWith_append_nil {sep : Text} {pieces : List Text} (hne : pieces ≠ []) :
    joinWith sep (pieces ++ [[]]) = joinWith sep pieces ++ sep := by
  induction pieces with
  | nil => exact absurd rfl hne
  | cons first rest ih =>
    cases rest with
    | nil => simp [joinWith]
    | cons next more =>
      have hrest := ih (List.cons_ne_nil _ _)
      rw [List.cons_append] at hrest
      rw [List.cons_append, List.cons_append, joinWith, hrest, joinWith, List.append_assoc (first ++ sep)]

/-- What is written behind the last piece stands behind all pieces. -/
theorem joinWith_append_last (sep : Text) (front : List Text) (last t : Text) :
    joinWith sep (front ++ [last ++ t]) = joinWith sep (front ++ [last]) ++ t := by
  induction front with
  | nil => rfl
  | cons first front ih =>
    cases front with
    | nil => simp [joinWith]
    | cons next front =>
      rw [List.cons_append, List.cons_append] at ih
      rw [List.cons_append, List.cons_append, List.cons_append, List.cons_append, joinWith, joinWith, ih]
      simp only [List.append_assoc]

theorem infix_joinWith {sep piece : Text} {pieces : List Text} (h : piece ∈ pieces) :
    piece <:+: joinWith sep pieces := by
  induction pieces with
  | nil => simp at h
  | cons first rest ih =>
    cases rest with
    | nil =>
      have hp : piece = first := List.mem_singleton.1 h
      rw [hp]
      exact List.infix_refl first
    | cons next more =>
      rcases List.mem_cons.1 h with rfl | h
      · exact ⟨[], sep ++ joinWith sep (next :: more), by simp [joinWith]⟩
      · exact (ih h).trans (List.suffix_append (first ++ sep) _).isInfix

/-! ### Carriage returns -/

theorem dropReturns_eq_iff {s t : Text} :
    dropReturns s = t ↔ (∃ n, s = t ++ List.replicate n '\r') ∧ t.getLast? ≠ some '\r' := by
  constructor
  · rintro rfl
    induction s with
    | nil => exact ⟨⟨0, rfl⟩, by simp [dropReturns]⟩
    | cons c s ih =>
      obtain ⟨⟨n, hn⟩, hlast⟩ := ih
      cases hs : dropReturns s with
      | nil =>
        rw [hs, List.nil_append] at hn
        by_cases hc : c = '\r'
        · refine ⟨⟨n + 1, ?_⟩, by simp [dropReturns, hs, hc]⟩
          simp only [dropReturns, hs, hc, if_true, List.nil_append, List.replicate_succ, ← hn]
        · refine ⟨⟨n, ?_⟩, by simp [dropReturns, hs, hc]⟩
          simp only [dropReturns, hs, hc, if_false, List.singleton_append, ← hn]
      | cons d rest =>
        rw [hs] at hn hlast
        refine ⟨⟨n, ?_⟩, ?_⟩
        · simp only [dropReturns, hs]
          rw [List.cons_append, ← hn]
        · simpa only [dropReturns, hs, List.getLast?_cons_cons] using hlast
  · rintro ⟨⟨n, rfl⟩, hlast⟩
    induction t with
    | nil =>
      induction n with
      | zero => rfl
      | succ n ih =>
        have ih : dropReturns (List.replicate n '\r') = [] := ih
        simp [List.replicate_succ, dropReturns, ih]
    | cons c t ih =>
      cases t with
      | nil =>
        have hc : c ≠ '\r' := by simpa using hlast
        have hnil : dropReturns (List.replicate n '\r') = [] := ih (by simp)
        simp [dropReturns, hnil, hc]
      | cons d t =>
        have htail : dropReturns ((d :: t) ++ List.replicate n '\r') = d :: t :=
          ih (by simpa only [List.getLast?_cons_cons] using hlast)
        rw [List.cons_append]
        simp only [dropReturns, htail]

end Text

end SuppressionAudit

import Mathlib.Data.List.TakeWhile
import SuppressionAudit.Text.Blank

/-!
# What trimming takes away

A trimmed text begins and ends with a character that is not blank, if it holds any. What stands behind a
text goes with trimming when it is blank, and keeps all in front of it when it is not.
-/

namespace SuppressionAudit

namespace Text

/-! ### The end of a text -/

theorem trimEnd_isPrefix (s : Text) : trimEnd s <+: s := by
  obtain ⟨tail, htail, -⟩ := trimEnd_append_blanks s
  exact ⟨tail, htail.symm⟩

theorem trimEnd_append_of_blank {tail : Text} (h : ∀ c ∈ tail, isBlank c = true) (s : Text) :
    trimEnd (s ++ tail) = trimEnd s := by
  induction s with
  | nil => exact (trimEnd_eq_nil_iff tail).2 h
  | cons c s ih => simp only [List.cons_append, trimEnd, ih]

theorem trimEnd_append_of_ne_nil {tail : Text} (h : trimEnd tail ≠ []) (s : Text) :
    trimEnd (s ++ tail) = s ++ trimEnd tail := by
  induction s with
  | nil => rfl
  | cons c s ih =>
    simp only [List.cons_append, trimEnd, ih]
    cases hrest : s ++ trimEnd tail with
    | nil => exact absurd (List.append_eq_nil_iff.1 hrest).2 h
    | cons d rest => rfl

theorem trimEnd_eq_self {s : Text} (h : ∀ c, s.getLast? = some c → isBlank c = false) : trimEnd s = s := by
  induction s with
  | nil => rfl
  | cons c s ih =>
    cases s with
    | nil =>
      have hc : isBlank c = false := h c rfl
      simp [trimEnd, hc]
    | cons d s =>
      have hrest : trimEnd (d :: s) = d :: s := ih fun e he => h e (by rwa [List.getLast?_cons_cons])
      rw [trimEnd, hrest]

theorem not_isBlank_last_trimEnd (s : Text) : ∀ c, (trimEnd s).getLast? = some c → isBlank c = false := by
  induction s with
  | nil => simp [trimEnd]
  | cons d s ih =>
    intro c hc
    cases hs : trimEnd s with
    | nil =>
      simp only [trimEnd, hs] at hc
      split at hc
      · simp at hc
      · next hd =>
        obtain rfl : d = c := by simpa using hc
        simpa using hd
    | cons e rest =>
      simp only [trimEnd, hs, List.getLast?_cons_cons] at hc
      exact ih c (by rw [hs]; exact hc)

theorem not_isBlank_last_of_trimEnd {s : Text} (h : trimEnd s = s) :
    ∀ c, s.getLast? = some c → isBlank c = false := by
  have hlast := not_isBlank_last_trimEnd s
  rwa [h] at hlast

theorem head?_trimEnd {s : Text} {c : Char} (h : (trimEnd s).head? = some c) : s.head? = some c := by
  cases s with
  | nil => simp [trimEnd] at h
  | cons d s =>
    cases hs : trimEnd s with
    | nil =>
      simp only [trimEnd, hs] at h
      split at h
      · simp at h
      · simpa using h
    | cons e rest => simpa [trimEnd, hs] using h

/-! ### The start of a text -/

theorem isBlank_of_trimStart {c : Char} {s : Text} (h : trimStart (c :: s) = c :: s) : isBlank c = false := by
  cases hc : isBlank c with
  | false => rfl
  | true =>
    have hlen := (List.dropWhile_suffix (p := isBlank) (l := s)).length_le
    simp only [trimStart, List.dropWhile_cons, hc, if_true] at h
    rw [h, List.length_cons] at hlen
    omega

theorem trim_eq_self_iff {s : Text} : trim s = s ↔ trimStart s = s ∧ trimEnd s = s := by
  constructor
  · intro h
    have hstart : trimStart s = s := by
      refine (List.dropWhile_suffix isBlank).eq_of_length_le ?_
      have hle := (trimEnd_isPrefix (trimStart s)).length_le
      rw [show trimEnd (trimStart s) = s from h] at hle
      exact hle
    refine ⟨hstart, ?_⟩
    rw [trim, hstart] at h
    exact h
  · rintro ⟨hstart, hend⟩
    rw [trim, hstart, hend]

theorem trim_blank_cons {c : Char} (hc : isBlank c = true) (s : Text) : trim (c :: s) = trim s := by
  simp [trim, trimStart, hc]

theorem leadingBlanks_blank_cons {c : Char} (hc : isBlank c = true) (s : Text) :
    leadingBlanks (c :: s) = leadingBlanks s + 1 := by
  simp [leadingBlanks, hc]

theorem leadingBlanks_eq_zero {s : Text} (h : trimStart s = s) : leadingBlanks s = 0 := by
  have hlen := congrArg List.length (trimStart_append s)
  rw [h, List.length_append] at hlen
  unfold leadingBlanks
  omega

end Text

/-! ### Texts between blanks -/

/-- `core` is what a text holds between the blanks around it. -/
structure IsCore (s core : Text) : Prop where
  around : ∃ front back, s = front ++ core ++ back ∧ ∀ c ∈ front ++ back, isBlank c = true
  first : ∀ c, core.head? = some c → isBlank c = false
  last : ∀ c, core.getLast? = some c → isBlank c = false

namespace Text

theorem trim_append_of_core {front core back : Text} (hfront : ∀ c ∈ front, isBlank c = true)
    (hback : ∀ c ∈ back, isBlank c = true) (hfirst : ∀ c, core.head? = some c → isBlank c = false)
    (hlast : ∀ c, core.getLast? = some c → isBlank c = false) : trim (front ++ core ++ back) = core := by
  have hstart : trimStart (front ++ core ++ back) = trimStart (core ++ back) := by
    rw [trimStart, trimStart, List.append_assoc, List.dropWhile_append_of_pos hfront]
  rw [trim, hstart]
  cases core with
  | nil =>
    have hnone : trimStart back = [] := List.dropWhile_eq_nil_iff.2 hback
    rw [List.nil_append, hnone]
    rfl
  | cons c core =>
    have hc : isBlank c = false := hfirst c rfl
    have hkept : trimStart (c :: core ++ back) = c :: core ++ back := by simp [trimStart, hc]
    rw [hkept, trimEnd_append_of_blank hback, trimEnd_eq_self hlast]

theorem isCore_trim (s : Text) : IsCore s (trim s) := by
  refine ⟨?_, ?_, not_isBlank_last_trimEnd _⟩
  · obtain ⟨tail, htail, hblank⟩ := trimEnd_append_blanks (trimStart s)
    refine ⟨s.takeWhile isBlank, tail, ?_, ?_⟩
    · rw [List.append_assoc, trim, ← htail, trimStart_append]
    · intro c hc
      rcases List.mem_append.1 hc with hc | hc
      · exact List.mem_takeWhile_imp hc
      · exact hblank c hc
  · intro c hc
    have hhead : (trimStart s).head? = some c := head?_trimEnd hc
    have hnot := List.head?_dropWhile_not isBlank s
    rw [trimStart] at hhead
    rw [hhead] at hnot
    simpa using hnot

theorem isCore_iff {s core : Text} : IsCore s core ↔ trim s = core := by
  constructor
  · rintro ⟨⟨front, back, rfl, hblank⟩, hfirst, hlast⟩
    have hfront : ∀ c ∈ front, isBlank c = true := fun c hc => hblank c (List.mem_append_left _ hc)
    have hback : ∀ c ∈ back, isBlank c = true := fun c hc => hblank c (List.mem_append_right _ hc)
    exact trim_append_of_core hfront hback hfirst hlast
  · rintro rfl
    exact isCore_trim s

theorem isCore_nil_iff {s : Text} : IsCore s [] ↔ ∀ c ∈ s, isBlank c = true := by
  constructor
  · rintro ⟨⟨front, back, rfl, hblank⟩, -, -⟩
    rwa [List.append_nil]
  · intro hblank
    exact ⟨⟨s, [], by simp, by simpa using hblank⟩, by simp, by simp⟩

/-- What is trimmed once stays as it is. -/
theorem trim_trim (s : Text) : trim (trim s) = trim s := by
  have hcore := isCore_trim s
  exact isCore_iff.1 ⟨⟨[], [], by simp, by simp⟩, hcore.first, hcore.last⟩

theorem trim_isInfix (s : Text) : trim s <:+: s := by
  obtain ⟨front, back, heq, -⟩ := (isCore_trim s).around
  exact ⟨front, back, heq.symm⟩

theorem leadingBlanks_add_length_trim_le (s : Text) : leadingBlanks s + (trim s).length ≤ s.length := by
  have hlen := congrArg List.length (trimStart_append s)
  have htrim := (trimEnd_isPrefix (trimStart s)).length_le
  rw [List.length_append] at hlen
  unfold leadingBlanks trim
  omega

/-! ### A blank behind a text -/

theorem trim_append_blank {c : Char} (hc : isBlank c = true) (s : Text) : trim (s ++ [c]) = trim s := by
  obtain ⟨⟨front, back, hs, hblank⟩, hfirst, hlast⟩ := isCore_trim s
  have hlonger : s ++ [c] = front ++ trim s ++ (back ++ [c]) := by
    rw [← List.append_assoc, ← hs]
  refine isCore_iff.1 ⟨⟨front, back ++ [c], hlonger, fun d hd => ?_⟩, hfirst, hlast⟩
  rw [← List.append_assoc] at hd
  rcases List.mem_append.1 hd with hd | hd
  · exact hblank d hd
  · rw [List.mem_singleton.1 hd]
    exact hc

theorem leadingBlanks_append_of_trim_ne_nil {s : Text} (h : trim s ≠ []) (t : Text) :
    leadingBlanks (s ++ t) = leadingBlanks s := by
  have hshort : leadingBlanks s ≠ s.length := by
    have hfits := leadingBlanks_add_length_trim_le s
    have hpos := List.length_pos_iff.2 h
    omega
  unfold leadingBlanks at hshort ⊢
  rw [List.takeWhile_append, if_neg hshort]

end Text

end SuppressionAudit

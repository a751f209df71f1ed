import SuppressionAudit.Proofs.Text.Cuts
import SuppressionAudit.Proofs.Text.Trims

/-!
# Lines that end in two characters

A text in which a carriage return stands before every newline. The two characters behave alike for whatever
tells characters apart by a class that holds both or neither, so it is cut, trimmed and searched at the same
places as before. Only the line that ends there has one more character, at its end.
-/

namespace SuppressionAudit

namespace Text

/-- A character as it is written where a carriage return goes before each newline. -/
def withReturn (c : Char) : Text := if c = '\n' then ['\r', '\n'] else [c]

/-- A text with a carriage return before each newline. -/
def withReturns (s : Text) : Text := s.flatMap withReturn

theorem withReturns_nil : withReturns [] = [] := rfl

theorem withReturns_newline (s : Text) : withReturns ('\n' :: s) = '\r' :: '\n' :: withReturns s := rfl

theorem withReturns_cons {c : Char} (hc : c ≠ '\n') (s : Text) : withReturns (c :: s) = c :: withReturns s := by
  simp [withReturns, withReturn, hc]

theorem withReturns_append (s t : Text) : withReturns (s ++ t) = withReturns s ++ withReturns t :=
  List.flatMap_append

theorem withReturns_of_notMem {s : Text} (h : '\n' ∉ s) : withReturns s = s := by
  induction s with
  | nil => rfl
  | cons c s ih =>
    rw [List.mem_cons, not_or] at h
    rw [withReturns_cons (Ne.symm h.1), ih h.2]

theorem withReturns_eq_nil_iff {s : Text} : withReturns s = [] ↔ s = [] := by
  cases s with
  | nil => exact Iff.rfl
  | cons c s =>
    by_cases hc : c = '\n'
    · simp [hc, withReturns_newline]
    · simp [withReturns_cons hc]

theorem mem_withReturns {c : Char} {s : Text} (h : c ∈ withReturns s) : c ∈ s ∨ c = '\r' := by
  obtain ⟨d, hd, hc⟩ := List.mem_flatMap.1 h
  by_cases hnewline : d = '\n'
  · subst hnewline
    rcases List.mem_cons.1 hc with hreturn | hc
    · exact .inr hreturn
    · rw [List.mem_singleton.1 hc]
      exact .inl hd
  · have hone : withReturn d = [d] := if_neg hnewline
    rw [hone] at hc
    rw [List.mem_singleton.1 hc]
    exact .inl hd

theorem getLast?_withReturns (s : Text) : (withReturns s).getLast? = s.getLast? := by
  rcases List.eq_nil_or_concat s with rfl | ⟨front, c, rfl⟩
  · rfl
  · have hlast : (withReturn c).getLast? = some c := by
      by_cases hc : c = '\n'
      · rw [hc]
        rfl
      · simp [withReturn, hc]
    have hone : withReturns [c] = withReturn c := List.append_nil _
    rw [List.concat_eq_append, withReturns_append, hone, List.getLast?_append, hlast, List.getLast?_append]
    rfl

/-! ### Runs and blanks -/

section Classes

variable {inClass : Char → Bool} (h : inClass '\r' = inClass '\n')

include h

theorem dropWhile_withReturns (s : Text) :
    (withReturns s).dropWhile inClass = withReturns (s.dropWhile inClass) := by
  induction s with
  | nil => rfl
  | cons c s ih =>
    cases hin : inClass c with
    | false =>
      by_cases hc : c = '\n'
      · subst hc
        simp [withReturns_newline, h, hin]
      · simp [withReturns_cons hc, hin]
    | true =>
      by_cases hc : c = '\n'
      · subst hc
        simp [withReturns_newline, h, hin, ih]
      · simp [withReturns_cons hc, hin, ih]

theorem takeWhile_withReturns (s : Text) :
    (withReturns s).takeWhile inClass = withReturns (s.takeWhile inClass) := by
  have hwhole : withReturns (s.takeWhile inClass) ++ withReturns (s.dropWhile inClass) = withReturns s := by
    rw [← withReturns_append, List.takeWhile_append_dropWhile]
  have hcut : (withReturns s).takeWhile inClass ++ withReturns (s.dropWhile inClass) = withReturns s := by
    rw [← dropWhile_withReturns h, List.takeWhile_append_dropWhile]
  exact List.append_cancel_right (hcut.trans hwhole.symm)

end Classes

theorem trimStart_withReturns (s : Text) : trimStart (withReturns s) = withReturns (trimStart s) :=
  dropWhile_withReturns rfl s

theorem trimEnd_withReturns (s : Text) : trimEnd (withReturns s) = withReturns (trimEnd s) := by
  obtain ⟨tail, htail, hblank⟩ := trimEnd_append_blanks s
  have hblanks : ∀ c ∈ withReturns tail, isBlank c = true := by
    intro c hc
    rcases mem_withReturns hc with hc | rfl
    · exact hblank c hc
    · rfl
  have hlast : ∀ c, (withReturns (trimEnd s)).getLast? = some c → isBlank c = false := by
    rw [getLast?_withReturns]
    exact not_isBlank_last_trimEnd s
  calc trimEnd (withReturns s)
      = trimEnd (withReturns (trimEnd s) ++ withReturns tail) := by rw [← withReturns_append, ← htail]
    _ = trimEnd (withReturns (trimEnd s)) := trimEnd_append_of_blank hblanks _
    _ = withReturns (trimEnd s) := trimEnd_eq_self hlast

theorem trim_withReturns (s : Text) : trim (withReturns s) = withReturns (trim s) := by
  rw [trim, trimStart_withReturns, trimEnd_withReturns, trim]

/-! ### Literals and separators -/

section Literals

variable {literal : Text} (hnewline : '\n' ∉ literal) (hreturn : '\r' ∉ literal)

include hnewline hreturn

theorem dropLiteral?_withReturns (s : Text) :
    dropLiteral? literal (withReturns s) = (dropLiteral? literal s).map withReturns := by
  induction literal generalizing s with
  | nil => rfl
  | cons a literal ih =>
    rw [List.mem_cons, not_or] at hnewline hreturn
    cases s with
    | nil => rfl
    | cons c s =>
      by_cases hc : c = '\n'
      · subst hc
        simp [withReturns_newline, dropLiteral?, Ne.symm hnewline.1, Ne.symm hreturn.1]
      · by_cases ha : a = c
        · simp only [withReturns_cons hc, dropLiteral?, ha, if_true, ih hnewline.2 hreturn.2]
        · simp [withReturns_cons hc, dropLiteral?, ha]

theorem splitAtFirst?_withReturns (hne : literal ≠ []) (s : Text) :
    splitAtFirst? literal (withReturns s)
      = (splitAtFirst? literal s).map fun found => (withReturns found.1, withReturns found.2) := by
  have hstep : ∀ (c : Char) (t : Text), dropLiteral? literal (c :: t) = none →
      splitAtFirst? literal (c :: t) = (splitAtFirst? literal t).map fun found => (c :: found.1, found.2) := by
    intro c t hnone
    simp only [splitAtFirst?, hnone]
  induction s with
  | nil => rfl
  | cons c s ih =>
    have hdrop := dropLiteral?_withReturns hnewline hreturn (c :: s)
    by_cases hc : c = '\n'
    · -- a literal begins with neither of the two characters
      subst hc
      have hnone : ∀ (d : Char) (t : Text), d ∉ literal → dropLiteral? literal (d :: t) = none := by
        intro d t hd
        cases literal with
        | nil => exact absurd rfl hne
        | cons a literal =>
          rw [List.mem_cons, not_or] at hd
          simp [dropLiteral?, Ne.symm hd.1]
      rw [withReturns_newline, hstep _ _ (hnone _ _ hreturn), hstep _ _ (hnone _ _ hnewline), ih,
        hstep _ _ (hnone _ _ hnewline)]
      simp only [Option.map_map]
      rfl
    · rw [withReturns_cons hc] at hdrop ⊢
      cases hd : dropLiteral? literal (c :: s) with
      | some rest =>
        rw [hd] at hdrop
        simp only [splitAtFirst?, hd, hdrop, Option.map_some, withReturns_nil]
      | none =>
        rw [hd] at hdrop
        rw [hstep _ _ hdrop, hstep _ _ hd, ih]
        simp only [Option.map_map]
        congr 1
        funext found
        simp [withReturns_cons hc]

end Literals

theorem splitOn_withReturns {sep : Char} (hnewline : sep ≠ '\n') (hreturn : sep ≠ '\r') (s : Text) :
    splitOn sep (withReturns s) = (splitOn sep s).map withReturns := by
  have hstep : ∀ (c : Char) (t piece : Text) (pieces : List Text), c ≠ sep →
      splitOn sep t = piece :: pieces → splitOn sep (c :: t) = (c :: piece) :: pieces := by
    intro c t piece pieces hc ht
    simp only [splitOn, hc, if_false, ht]
  induction s with
  | nil => rfl
  | cons c s ih =>
    cases hs : splitOn sep s with
    | nil => exact absurd hs (splitOn_ne_nil sep s)
    | cons piece pieces =>
      rw [hs, List.map_cons] at ih
      by_cases hsep : c = sep
      · subst hsep
        rw [withReturns_cons hnewline]
        simp [splitOn, ih, hs, withReturns_nil]
      · rw [hstep c s _ _ hsep hs, List.map_cons]
        by_cases hc : c = '\n'
        · subst hc
          rw [withReturns_newline, withReturns_newline]
          exact hstep _ _ _ _ hreturn.symm (hstep _ _ _ _ hsep ih)
        · rw [withReturns_cons hc, withReturns_cons hc]
          exact hstep _ _ _ _ hsep ih

/-! ### Lines -/

/-- The additional character goes with the carriage returns at the end of a line. -/
theorem dropReturns_lines_withReturns (s : Text) :
    (lines (withReturns s)).map dropReturns = (lines s).map dropReturns := by
  induction s with
  | nil => rfl
  | cons c s ih =>
    unfold lines at ih ⊢
    by_cases hc : c = '\n'
    · subst hc
      rw [withReturns_newline]
      simp [splitOn, ih, dropReturns]
    · rw [withReturns_cons hc]
      cases hs : splitOn '\n' s with
      | nil => exact absurd hs (splitOn_ne_nil _ s)
      | cons line lines =>
        cases hr : splitOn '\n' (withReturns s) with
        | nil => exact absurd hr (splitOn_ne_nil _ _)
        | cons line' lines' =>
          rw [hs, hr, List.map_cons, List.map_cons] at ih
          obtain ⟨hline, hlines⟩ := List.cons.inj ih
          simp only [splitOn, hc, if_false, hs, hr, List.map_cons, dropReturns, hline, hlines]

end Text

end SuppressionAudit

import SuppressionAudit.Text

/-!
# Blank characters

Which characters count as white space in directives, patterns and process output, and how a text
is trimmed of them. The class is wider than ASCII: it also holds the four information separators,
NEL and the Unicode spaces and line separators. It does not hold the zero-width characters
(U+200B, U+2060, U+FEFF).
-/

namespace SuppressionAudit

def isBlank (c : Char) : Bool :=
  let n := c.toNat
  (9 ≤ n && n ≤ 13) || (28 ≤ n && n ≤ 32) || n == 0x85 || n == 0xA0 || n == 0x1680
    || (0x2000 ≤ n && n ≤ 0x200A) || n == 0x2028 || n == 0x2029 || n == 0x202F || n == 0x205F
    || n == 0x3000

namespace Text

def trimStart (s : Text) : Text := s.dropWhile isBlank

def trimEnd : Text → Text
  | [] => []
  | c :: s =>
    match trimEnd s with
    | [] => if isBlank c then [] else [c]
    | d :: rest => c :: d :: rest

def trim (s : Text) : Text := trimEnd (trimStart s)

def leadingBlanks (s : Text) : Nat := (s.takeWhile isBlank).length

/-- The maximal runs of characters that are not blank. -/
def words : Text → List Text
  | [] => []
  | c :: s =>
    if isBlank c then words s
    else
      match s, words s with
      | [], _ => [[c]]
      | _ :: _, [] => [[c]]
      | d :: _, word :: rest => if isBlank d then [c] :: word :: rest else (c :: word) :: rest

/-! ### What trimming leaves -/

theorem isBlank_space : isBlank ' ' = true := rfl

theorem isBlank_newline : isBlank '\n' = true := rfl

theorem isBlank_comma : isBlank ',' = false := rfl

theorem isBlank_dash : isBlank '-' = false := rfl

theorem trimEnd_eq_nil_iff (s : Text) : trimEnd s = [] ↔ ∀ c ∈ s, isBlank c = true := by
  induction s with
  | nil => simp [trimEnd]
  | cons c s ih =>
    cases h : trimEnd s with
    | nil =>
      have hs := ih.1 h
      by_cases hc : isBlank c = true
      · simp only [trimEnd, h, hc, if_true, true_iff]
        intro d hd
        rcases List.mem_cons.1 hd with rfl | hd
        · exact hc
        · exact hs d hd
      · simp [trimEnd, h, hc]
    | cons d rest =>
      simp only [trimEnd, h, reduceCtorEq, false_iff]
      intro hall
      have : trimEnd s = [] := ih.2 fun d hd => hall d (List.mem_cons_of_mem _ hd)
      rw [h] at this
      exact List.cons_ne_nil _ _ this

theorem trimEnd_append_blanks (s : Text) : ∃ tail, s = trimEnd s ++ tail ∧ ∀ c ∈ tail, isBlank c = true := by
  induction s with
  | nil => exact ⟨[], rfl, by simp⟩
  | cons c s ih =>
    obtain ⟨tail, htail, hblank⟩ := ih
    cases h : trimEnd s with
    | nil =>
      rw [h, List.nil_append] at htail
      by_cases hc : isBlank c = true
      · refine ⟨c :: s, by simp [trimEnd, h, hc], ?_⟩
        intro d hd
        rcases List.mem_cons.1 hd with rfl | hd
        · exact hc
        · exact hblank d (htail ▸ hd)
      · exact ⟨s, by simp [trimEnd, h, hc], htail ▸ hblank⟩
    | cons d rest =>
      refine ⟨tail, ?_, hblank⟩
      simp only [trimEnd, h]
      rw [h] at htail
      rw [List.cons_append, ← htail]

theorem trimStart_append (s : Text) : s.takeWhile isBlank ++ trimStart s = s :=
  List.takeWhile_append_dropWhile

end Text

end SuppressionAudit

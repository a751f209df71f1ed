import Mathlib.Data.List.TakeWhile
import SuppressionAudit.Proofs.Json.Grammar

/-!
# Strings, words and numbers

The reader takes strings, words and numbers as the notation has them: a string up to its first quote that is
not escaped, a number as far as it goes.
-/

namespace SuppressionAudit

namespace Json

variable {s t rest inside : Text} {units : List Nat} {v : Json} {c : Char} {n : Nat}

/-! ### Strings -/

theorem consUnit_eq_some_iff {read : Option (List Nat × Text)} : consUnit n read = some (units, rest) ↔
    ∃ later, read = some (later, rest) ∧ units = n :: later := by
  unfold consUnit
  rw [Option.map_eq_some_iff]
  constructor
  · rintro ⟨⟨later, behind⟩, hread, heq⟩
    obtain ⟨rfl, rfl⟩ := Prod.mk.inj heq
    exact ⟨later, hread, rfl⟩
  · rintro ⟨later, hread, rfl⟩
    exact ⟨_, hread, rfl⟩

theorem readUnits_of_writes (h : WritesUnits inside units) :
    readUnits (inside ++ '"' :: rest) = some (units, rest) := by
  induction h with
  | done =>
    unfold readUnits
    exact if_pos rfl
  | @plain c s units hquote hslash hcontrol _ ih =>
    rw [List.cons_append]
    unfold readUnits
    rw [if_neg hquote, if_neg hslash, if_neg (Nat.not_lt.2 hcontrol)]
    exact consUnit_eq_some_iff.2 ⟨_, ih, rfl⟩
  | @short e c s units hshort _ ih =>
    have hunit : e ≠ 'u' := by
      rintro rfl
      simp [shortEscape?] at hshort
    rw [List.cons_append, List.cons_append]
    unfold readUnits
    rw [if_neg (by decide), if_pos rfl]
    simp only [if_neg hunit, hshort]
    exact consUnit_eq_some_iff.2 ⟨_, ih, rfl⟩
  | hex hunit _ ih =>
    simp only [List.cons_append]
    unfold readUnits
    rw [if_neg (by decide), if_pos rfl]
    simp only [if_true, hunit]
    exact consUnit_eq_some_iff.2 ⟨_, ih, rfl⟩

theorem writesUnits_of_readUnits (h : readUnits s = some (units, rest)) :
    ∃ inside, s = inside ++ '"' :: rest ∧ WritesUnits inside units := by
  fun_induction readUnits s generalizing units with
  | case1 => simp at h
  | case2 s =>
    obtain ⟨rfl, rfl⟩ := Prod.mk.inj (Option.some.inj h)
    exact ⟨[], rfl, .done⟩
  | case3 => simp at h
  | case4 h₁ h₂ h₃ h₄ s n hunit hquote ih =>
    obtain ⟨later, hread, rfl⟩ := consUnit_eq_some_iff.1 h
    obtain ⟨inside, rfl, hwrites⟩ := ih hread
    exact ⟨_, rfl, .hex hunit hwrites⟩
  | case5 => simp at h
  | case6 => simp at h
  | case7 e s hunit c hshort hquote ih =>
    obtain ⟨later, hread, rfl⟩ := consUnit_eq_some_iff.1 h
    obtain ⟨inside, rfl, hwrites⟩ := ih hread
    exact ⟨_, rfl, .short hshort hwrites⟩
  | case8 => simp at h
  | case9 => simp at h
  | case10 c s hquote hslash hcontrol ih =>
    obtain ⟨later, hread, rfl⟩ := consUnit_eq_some_iff.1 h
    obtain ⟨inside, rfl, hwrites⟩ := ih hread
    exact ⟨_, rfl, .plain hquote hslash (Nat.not_lt.1 hcontrol) hwrites⟩

theorem readString_eq_some_iff : readString s = some (t, rest) ↔
    ∃ text, '"' :: s = text ++ rest ∧ WritesString text t := by
  unfold readString
  rw [Option.map_eq_some_iff]
  constructor
  · rintro ⟨⟨units, behind⟩, hread, heq⟩
    obtain ⟨rfl, rfl⟩ := Prod.mk.inj heq
    obtain ⟨inside, rfl, hwrites⟩ := writesUnits_of_readUnits hread
    exact ⟨_, by simp, .quoted hwrites⟩
  · rintro ⟨text, heq, hwrites⟩
    cases hwrites with
    | quoted hunits =>
      obtain rfl : s = _ ++ '"' :: rest := by simpa using heq
      exact ⟨_, readUnits_of_writes hunits, rfl⟩

/-! ### Numbers -/

theorem isNumberChar_of_isDigit (h : isDigit c = true) : isNumberChar c = true := by
  simp [isNumberChar, h]

theorem unsigned_append (hne : s ≠ []) : unsigned (s ++ rest) = unsigned s ++ rest := by
  cases s with
  | nil => exact absurd rfl hne
  | cons c s =>
    by_cases hsign : c = '-'
    · subst hsign
      rfl
    · simp [unsigned, hsign]

theorem mem_of_unsigned (h : ∀ c ∈ unsigned s, isNumberChar c = true) : ∀ c ∈ s, isNumberChar c = true := by
  cases s with
  | nil => simp
  | cons c s =>
    by_cases hsign : c = '-'
    · subst hsign
      exact List.forall_mem_cons.2 ⟨rfl, h⟩
    · have hself : unsigned (c :: s) = c :: s := by simp [unsigned, hsign]
      rwa [hself] at h

theorem isDigit_of_isWhole (h : isWhole s = true) : ∀ c ∈ s, isDigit c = true := by
  unfold isWhole at h
  split at h
  · simp at h
  · intro c hc
    rw [List.mem_singleton.1 hc]
    rfl
  · simp only [Bool.and_eq_true, List.all_eq_true] at h
    exact List.forall_mem_cons.2 ⟨h.1.2, h.2⟩

theorem ne_nil_of_isWhole (h : isWhole s = true) : s ≠ [] := by
  rintro rfl
  simp [isWhole] at h

theorem isNumberChar_of_isDigits (h : isDigits s = true) : ∀ c ∈ s, isNumberChar c = true := by
  simp only [isDigits, Bool.and_eq_true, List.all_eq_true] at h
  exact fun c hc => isNumberChar_of_isDigit (h.2 c hc)

theorem isNumberChar_of_isExponent (h : isExponent s = true) : ∀ c ∈ s, isNumberChar c = true := by
  unfold isExponent at h
  split at h
  · exact List.forall_mem_cons.2 ⟨rfl, isNumberChar_of_isDigits h⟩
  · exact List.forall_mem_cons.2 ⟨rfl, isNumberChar_of_isDigits h⟩
  · exact isNumberChar_of_isDigits h

theorem isNumberChar_of_mark (hmark : (c == 'e' || c == 'E') = true) (h : isExponent s = true) :
    ∀ d ∈ c :: s, isNumberChar d = true := by
  refine List.forall_mem_cons.2 ⟨?_, isNumberChar_of_isExponent h⟩
  simp only [Bool.or_eq_true, beq_iff_eq] at hmark
  rcases hmark with rfl | rfl <;> rfl

theorem isNumberChar_of_isFractional (h : isFractional s = true) : ∀ c ∈ s, isNumberChar c = true := by
  unfold isFractional at h
  split at h
  · next s =>
    rw [Bool.and_eq_true] at h
    obtain ⟨hdigits, hrest⟩ := h
    refine List.forall_mem_cons.2 ⟨rfl, ?_⟩
    rw [← List.takeWhile_append_dropWhile (p := isDigit) (l := s)]
    refine List.forall_mem_append.2 ⟨isNumberChar_of_isDigits hdigits, ?_⟩
    split at hrest
    · next hnil => simp [hnil]
    · next mark exponent hmark =>
      rw [Bool.and_eq_true] at hrest
      rw [hmark]
      exact isNumberChar_of_mark hrest.1 hrest.2
  · rw [Bool.and_eq_true] at h
    exact isNumberChar_of_mark h.1 h.2
  · simp

/-- A number, not a word, is in front. -/
def BeginsWithDigit (s : Text) : Prop := ∃ d, (unsigned s).head? = some d ∧ isDigit d = true

theorem BeginsWithDigit.ne_nil (h : BeginsWithDigit s) : s ≠ [] := by
  rintro rfl
  obtain ⟨d, hd, -⟩ := h
  simp [unsigned] at hd

theorem BeginsWithDigit.append (h : BeginsWithDigit s) (rest : Text) : BeginsWithDigit (s ++ rest) := by
  obtain ⟨d, hd, hdigit⟩ := h
  refine ⟨d, ?_, hdigit⟩
  rw [unsigned_append (BeginsWithDigit.ne_nil ⟨d, hd, hdigit⟩), List.head?_append, hd]
  rfl

/-- A literal of a number as it is read: its characters, and what it begins with. -/
structure IsNumber (s : Text) : Prop where
  chars : ∀ c ∈ s, isNumberChar c = true
  begins : BeginsWithDigit s

theorem isNumber_of_whole (h : isWholeLiteral s = true) : IsNumber s := by
  have hdigits := isDigit_of_isWhole h
  refine ⟨mem_of_unsigned fun c hc => isNumberChar_of_isDigit (hdigits c hc), ?_⟩
  cases hhead : unsigned s with
  | nil => exact absurd hhead (ne_nil_of_isWhole h)
  | cons d rest => exact ⟨d, by rw [hhead]; rfl, hdigits d (by rw [hhead]; exact List.mem_cons_self)⟩

theorem isNumber_of_real (h : isRealLiteral s = true) : IsNumber s := by
  rw [isRealLiteral, Bool.and_eq_true] at h
  obtain ⟨hwhole, hfractional⟩ := h
  refine ⟨mem_of_unsigned fun c hc => ?_, ?_⟩
  · rw [← List.takeWhile_append_dropWhile (p := isDigit) (l := unsigned s)] at hc
    rcases List.mem_append.1 hc with hc | hc
    · exact isNumberChar_of_isDigit (List.mem_takeWhile_imp hc)
    · exact isNumberChar_of_isFractional hfractional c hc
  · cases hhead : unsigned s with
    | nil =>
      rw [hhead] at hwhole
      simp [isWhole] at hwhole
    | cons d rest =>
      refine ⟨d, by rw [hhead]; rfl, ?_⟩
      by_contra hdigit
      rw [hhead, List.takeWhile_cons, if_neg hdigit] at hwhole
      simp [isWhole] at hwhole

theorem not_whole_of_real (h : isRealLiteral s = true) : isWholeLiteral s = false := by
  rw [← Bool.not_eq_true]
  intro hwhole
  rw [isRealLiteral, Bool.and_eq_true] at h
  have hnone : (unsigned s).dropWhile isDigit = [] :=
    List.dropWhile_eq_nil_iff.2 (isDigit_of_isWhole hwhole)
  rw [hnone] at h
  simp [isFractional] at h

/-! ### Words and numbers -/

theorem words_begin_otherwise :
    ∀ p ∈ wordValues, p.1 ≠ [] ∧ (unsigned p.1).head?.all isDigit = false := by
  decide

theorem readWord_eq_none (h : BeginsWithDigit s) : readWord s = none := by
  by_contra hread
  obtain ⟨found, hfound⟩ := Option.ne_none_iff_exists'.1 hread
  obtain ⟨p, hp, hword⟩ := List.exists_of_findSome?_eq_some hfound
  obtain ⟨rest, hrest, -⟩ := Option.map_eq_some_iff.1 hword
  obtain ⟨hne, hhead⟩ := words_begin_otherwise p hp
  obtain ⟨d, hd, hdigit⟩ := h
  rw [Text.dropLiteral?_eq_some hrest, unsigned_append hne, List.head?_append] at hd
  cases hfirst : (unsigned p.1).head? with
  | none => simp [hfirst] at hhead
  | some c =>
    rw [hfirst] at hd hhead
    obtain rfl := Option.some.inj hd
    exact absurd hdigit (by simpa using hhead)

theorem readAtom_of_word (h : (s, v) ∈ wordValues) : readAtom (s ++ rest) = some (v, rest) := by
  simp only [wordValues, List.mem_cons, Prod.mk.injEq, List.not_mem_nil, or_false] at h
  rcases h with ⟨rfl, rfl⟩ | ⟨rfl, rfl⟩ | ⟨rfl, rfl⟩ | ⟨rfl, rfl⟩ | ⟨rfl, rfl⟩ | ⟨rfl, rfl⟩ <;> rfl

theorem readAtom_of_number (h : IsNumber s) (hrest : EndsNumber rest) :
    readAtom (s ++ rest) = (numberOf? s).map fun v => (v, rest) := by
  have htake : rest.takeWhile isNumberChar = [] := by
    cases rest with
    | nil => rfl
    | cons c rest => rw [List.takeWhile_cons, hrest c rfl, if_neg (by decide)]
  have hdrop : rest.dropWhile isNumberChar = rest := by
    cases rest with
    | nil => rfl
    | cons c rest => rw [List.dropWhile_cons, hrest c rfl, if_neg (by decide)]
  rw [readAtom, readWord_eq_none (h.begins.append rest), List.takeWhile_append_of_pos h.chars,
    List.dropWhile_append_of_pos h.chars, htake, hdrop, List.append_nil]

theorem readAtom_of_writes (h : WritesAtom s v) (hrest : EndsNumber rest) :
    readAtom (s ++ rest) = some (v, rest) := by
  cases h with
  | word hword => exact readAtom_of_word hword
  | int hwhole =>
    rw [readAtom_of_number (isNumber_of_whole hwhole) hrest, numberOf?, if_pos hwhole]
    rfl
  | real hreal =>
    have hwhole : ¬ isWholeLiteral s = true := by rw [not_whole_of_real hreal]; decide
    rw [readAtom_of_number (isNumber_of_real hreal) hrest, numberOf?, if_neg hwhole, dif_pos hreal]
    rfl

theorem writesAtom_of_readAtom (h : readAtom s = some (v, rest)) :
    ∃ text, s = text ++ rest ∧ WritesAtom text v := by
  unfold readAtom at h
  split at h
  · next found hfound =>
    obtain rfl := Option.some.inj h
    obtain ⟨p, hp, hword⟩ := List.exists_of_findSome?_eq_some hfound
    obtain ⟨behind, hbehind, heq⟩ := Option.map_eq_some_iff.1 hword
    obtain ⟨rfl, rfl⟩ := Prod.mk.inj heq
    exact ⟨p.1, Text.dropLiteral?_eq_some hbehind, .word hp⟩
  · obtain ⟨number, hnumber, heq⟩ := Option.map_eq_some_iff.1 h
    obtain ⟨rfl, rfl⟩ := Prod.mk.inj heq
    refine ⟨s.takeWhile isNumberChar, List.takeWhile_append_dropWhile.symm, ?_⟩
    unfold numberOf? at hnumber
    split at hnumber
    · next hwhole =>
      obtain rfl := Option.some.inj hnumber
      exact .int hwhole
    · split at hnumber
      · next hreal =>
        obtain rfl := Option.some.inj hnumber
        exact .real hreal
      · simp at hnumber

/-! ### First characters of words and numbers -/

/-- The characters with which strings, arrays and objects begin or end, and the blanks. -/
def delimiters : List Char := ['"', '[', '\x7b', ']', '\x7d', ' ', '\t', '\n', '\r']

theorem WritesAtom.head (h : WritesAtom s v) : ∃ c rest, s = c :: rest ∧ c ∉ delimiters := by
  have hnumber : IsNumber s → ∃ c rest, s = c :: rest ∧ c ∉ delimiters := by
    intro hnumber
    cases s with
    | nil => exact absurd rfl hnumber.begins.ne_nil
    | cons c rest =>
      refine ⟨c, rest, rfl, fun hmem => ?_⟩
      have hother : delimiters.all (fun d => !isNumberChar d) = true := by decide
      exact absurd (hnumber.chars c List.mem_cons_self) (by simpa using List.all_eq_true.1 hother c hmem)
  cases h with
  | word hword =>
    have hwords : ∀ p ∈ wordValues, p.1.head?.any (fun c => !delimiters.contains c) = true := by decide
    have hhead := hwords _ hword
    cases s with
    | nil => simp at hhead
    | cons c rest => exact ⟨c, rest, rfl, by simpa using hhead⟩
  | int hwhole => exact hnumber (isNumber_of_whole hwhole)
  | real hreal => exact hnumber (isNumber_of_real hreal)

end Json

end SuppressionAudit

import SuppressionAudit.Json.Writer
import SuppressionAudit.Proofs.Json.Readings
import SuppressionAudit.Proofs.Text.StrictUtf8

/-!
# What the writer writes

The text that is written for a value is a document of that value, in printable ASCII. A string goes through
its code units: the writer gives each a character or an escape, and two of them are a character again exactly
where it took two.
-/

namespace SuppressionAudit

namespace Json

variable {s t : Text} {units : List Nat} {v : Json} {items : List Json} {fields : List (Text × Json)} {c : Char}
  {n : Nat}

/-! ### Code units -/

def unitsOfChar (c : Char) : List Nat :=
  if c.toNat < 0x10000 then [c.toNat]
  else [0xD800 + (c.toNat - 0x10000) / 0x400, 0xDC00 + (c.toNat - 0x10000) % 0x400]

def unitsOf (s : Text) : List Nat := s.flatMap unitsOfChar

theorem not_surrogate_of_char (h : c.toNat < 0x10000) :
    isHighSurrogate c.toNat = false ∧ isLowSurrogate c.toNat = false := by
  have hrange := Utf8.char_range c
  simp only [isHighSurrogate, isLowSurrogate, Bool.and_eq_false_iff, decide_eq_false_iff_not]
  omega

theorem textOfUnits_cons (h : isHighSurrogate n = false) :
    textOfUnits (n :: units) = unitChar n :: textOfUnits units := by
  cases units with
  | nil => simp [textOfUnits]
  | cons m rest => simp [textOfUnits, h]

theorem textOfUnits_pair {m : Nat} (hhigh : isHighSurrogate n = true) (hlow : isLowSurrogate m = true) :
    textOfUnits (n :: m :: units)
      = Char.ofNat (0x10000 + (n - 0xD800) * 0x400 + (m - 0xDC00)) :: textOfUnits units := by
  simp [textOfUnits, hhigh, hlow]

theorem textOfUnits_unitsOfChar (c : Char) (units : List Nat) :
    textOfUnits (unitsOfChar c ++ units) = c :: textOfUnits units := by
  have hrange := Utf8.char_range c
  unfold unitsOfChar
  split
  · next hbasic =>
    obtain ⟨hhigh, hlow⟩ := not_surrogate_of_char hbasic
    rw [List.singleton_append, textOfUnits_cons hhigh, unitChar, hhigh, hlow, if_neg (by decide), Char.ofNat_toNat]
  · have hhigh : isHighSurrogate (0xD800 + (c.toNat - 0x10000) / 0x400) = true := by
      simp only [isHighSurrogate, Bool.and_eq_true, decide_eq_true_eq]
      omega
    have hlow : isLowSurrogate (0xDC00 + (c.toNat - 0x10000) % 0x400) = true := by
      simp only [isLowSurrogate, Bool.and_eq_true, decide_eq_true_eq]
      omega
    have hvalue : 0x10000 + (0xD800 + (c.toNat - 0x10000) / 0x400 - 0xD800) * 0x400
        + (0xDC00 + (c.toNat - 0x10000) % 0x400 - 0xDC00) = c.toNat := by omega
    rw [List.cons_append, List.singleton_append, textOfUnits_pair hhigh hlow, hvalue, Char.ofNat_toNat]

/-- The code units of a text make up that text, whatever stands next to each other in it. -/
theorem textOfUnits_unitsOf (s : Text) : textOfUnits (unitsOf s) = s := by
  induction s with
  | nil => rfl
  | cons c s ih =>
    have hcons : unitsOf (c :: s) = unitsOfChar c ++ unitsOf s := rfl
    rw [hcons, textOfUnits_unitsOfChar, ih]

/-! ### Strings -/

/-- The four ways to write a character: a short escape, itself, one code unit, or a surrogate pair. -/
theorem writeChar_cases (c : Char) :
    (∃ e, shortEscape? e = some c ∧ c.toNat < 0x10000 ∧ writeChar c = ['\\', e]) ∨
    (c ≠ '"' ∧ c ≠ '\\' ∧ 0x20 ≤ c.toNat ∧ c.toNat < 0x7F ∧ writeChar c = [c]) ∨
    (c.toNat < 0x10000 ∧ writeChar c = unitEscape c.toNat) ∨
    (0x10000 ≤ c.toNat ∧ writeChar c = unitEscape (0xD800 + (c.toNat - 0x10000) / 0x400)
      ++ unitEscape (0xDC00 + (c.toNat - 0x10000) % 0x400)) := by
  by_cases hquote : c = '"'
  · subst hquote
    exact .inl ⟨'"', rfl, by decide, rfl⟩
  by_cases hslash : c = '\\'
  · subst hslash
    exact .inl ⟨'\\', rfl, by decide, rfl⟩
  by_cases hnewline : c = '\n'
  · subst hnewline
    exact .inl ⟨'n', rfl, by decide, rfl⟩
  by_cases hreturn : c = '\r'
  · subst hreturn
    exact .inl ⟨'r', rfl, by decide, rfl⟩
  by_cases htab : c = '\t'
  · subst htab
    exact .inl ⟨'t', rfl, by decide, rfl⟩
  by_cases hback : c = '\x08'
  · subst hback
    exact .inl ⟨'b', rfl, by decide, rfl⟩
  by_cases hfeed : c = '\x0C'
  · subst hfeed
    exact .inl ⟨'f', rfl, by decide, rfl⟩
  rw [writeChar, if_neg hquote, if_neg hslash, if_neg hnewline, if_neg hreturn, if_neg htab, if_neg hback,
    if_neg hfeed]
  by_cases hplain : 0x20 ≤ c.toNat ∧ c.toNat < 0x7F
  · exact .inr (.inl ⟨hquote, hslash, hplain.1, hplain.2, if_pos hplain⟩)
  rw [if_neg hplain]
  by_cases hbasic : c.toNat < 0x10000
  · exact .inr (.inr (.inl ⟨hbasic, if_pos hbasic⟩))
  · exact .inr (.inr (.inr ⟨Nat.not_lt.1 hbasic, if_neg hbasic⟩))

theorem hexValue?_hexDigit : ∀ k < 16, hexValue? (Text.hexDigit k) = some k := by decide

theorem writesUnits_unitEscape (hn : n < 0x10000) (h : WritesUnits s units) :
    WritesUnits (unitEscape n ++ s) (n :: units) := by
  have hdigit : ∀ k, hexValue? (Text.hexDigit (k % 16)) = some (k % 16) :=
    fun k => hexValue?_hexDigit _ (Nat.mod_lt _ (by decide))
  have hunit : hexUnit? (Text.hexDigit (n / 16 / 16 / 16 % 16)) (Text.hexDigit (n / 16 / 16 % 16))
      (Text.hexDigit (n / 16 % 16)) (Text.hexDigit (n % 16)) = some n := by
    simp only [hexUnit?, hdigit, Option.bind_eq_bind, Option.bind_some, Option.pure_def, Option.some.injEq]
    omega
  exact .hex hunit h

theorem writesUnits_writeChar (c : Char) (h : WritesUnits s units) :
    WritesUnits (writeChar c ++ s) (unitsOfChar c ++ units) := by
  have hrange := Utf8.char_range c
  rcases writeChar_cases c with ⟨e, hshort, hbasic, hwritten⟩ | ⟨hquote, hslash, hlow, hhigh, hwritten⟩ |
    ⟨hbasic, hwritten⟩ | ⟨hbeyond, hwritten⟩
  · rw [hwritten, unitsOfChar, if_pos hbasic]
    exact .short hshort h
  · rw [hwritten, unitsOfChar, if_pos (Nat.lt_trans hhigh (by decide))]
    exact .plain hquote hslash hlow h
  · rw [hwritten, unitsOfChar, if_pos hbasic]
    exact writesUnits_unitEscape hbasic h
  · rw [hwritten, unitsOfChar, if_neg (Nat.not_lt.2 hbeyond), List.append_assoc]
    exact writesUnits_unitEscape (by omega) (writesUnits_unitEscape (by omega) h)

theorem writesUnits_flatMap (s : Text) : WritesUnits (s.flatMap writeChar) (unitsOf s) := by
  induction s with
  | nil => exact .done
  | cons c s ih => exact writesUnits_writeChar c ih

theorem writesString_writeString (s : Text) : WritesString (writeString s) s := by
  have hquoted : WritesString (writeString s) (textOfUnits (unitsOf s)) := .quoted (writesUnits_flatMap s)
  rwa [textOfUnits_unitsOf] at hquoted

example : writeString "é😀\n".toList = "\"\\u00e9\\ud83d\\ude00\\n\"".toList := by decide

/-! ### Integers -/

theorem isDigit_of_mem_ofNat (h : c ∈ Text.ofNat n) : isDigit c = true :=
  Nat.isDigit_of_mem_toDigits (by decide) (by decide) h

theorem natOfDigits_ofNat (n : Nat) : natOfDigits (Text.ofNat n) = n := by
  have hfold : ∀ digits : Text, natOfDigits digits = Nat.ofDigitChars 10 digits 0 := by
    intro digits
    simp only [natOfDigits, Nat.ofDigitChars_eq_foldl, Nat.mul_comm 10]
    rfl
  rw [hfold]
  exact Nat.ofDigitChars_toDigits (by decide) (by decide)

/-- A positive number is written without a zero in front. -/
theorem head_ofNat (h : 0 < n) : ∃ d rest, Text.ofNat n = d :: rest ∧ d ≠ '0' := by
  induction n using Nat.strongRecOn with
  | ind n ih =>
    have hdigits : Text.ofNat n = if n < 10 then [n.digitChar] else Text.ofNat (n / 10) ++ [(n % 10).digitChar] :=
      Nat.toDigits_eq_if (by decide)
    rw [hdigits]
    split
    · next hsmall =>
      have hnonzero : ∀ k < 10, 0 < k → k.digitChar ≠ '0' := by decide
      exact ⟨_, [], rfl, hnonzero n hsmall h⟩
    · obtain ⟨d, rest, hfront, hd⟩ := ih (n / 10) (by omega) (by omega)
      exact ⟨d, rest ++ [(n % 10).digitChar], by rw [hfront]; rfl, hd⟩

theorem isWhole_ofNat (n : Nat) : isWhole (Text.ofNat n) = true := by
  rcases Nat.eq_zero_or_pos n with rfl | hpos
  · rfl
  · obtain ⟨d, rest, hdigits, hd⟩ := head_ofNat hpos
    have hall : ∀ c ∈ d :: rest, isDigit c = true := fun c hc => isDigit_of_mem_ofNat (hdigits ▸ hc)
    obtain ⟨hdigit, hrest⟩ := List.forall_mem_cons.1 hall
    rw [hdigits, isWhole]
    · simpa [hd, hdigit] using hrest
    · rintro rfl
      exact fun _ => hd rfl

/-- The digits of a number are no literal with a sign. -/
theorem not_minus_ofNat (n : Nat) (s : Text) : Text.ofNat n ≠ '-' :: s := by
  intro h
  have hminus : isDigit '-' = true := isDigit_of_mem_ofNat (n := n) (h ▸ List.mem_cons_self)
  exact absurd hminus (by decide)

theorem writesAtom_writeInt (n : Int) : WritesAtom (writeInt n) (.int n) := by
  have hwhole : isWholeLiteral (writeInt n) = true := by
    unfold isWholeLiteral writeInt
    split
    · exact isWhole_ofNat _
    · rw [unsigned]
      · exact isWhole_ofNat _
      · exact not_minus_ofNat _
  have hvalue : intOfLiteral (writeInt n) = n := by
    unfold writeInt
    split
    · rw [intOfLiteral, natOfDigits_ofNat]
      omega
    · rw [intOfLiteral, natOfDigits_ofNat]
      · omega
      · exact not_minus_ofNat _
  have hatom := WritesAtom.int hwhole
  rwa [hvalue] at hatom

/-! ### Words and other numbers -/

theorem writesAtom_real (r : RealLiteral) : WritesAtom r.text (.real r) := by
  obtain ⟨text, hliteral | hinfinite⟩ := r
  · exact .real hliteral
  · refine .word ?_
    simp only [infinities, List.mem_cons, List.not_mem_nil, or_false] at hinfinite
    rcases hinfinite with rfl | rfl | rfl
    · exact .tail _ (.tail _ (.tail _ (.head _)))
    · exact .tail _ (.tail _ (.tail _ (.tail _ (.head _))))
    · exact .tail _ (.tail _ (.tail _ (.tail _ (.tail _ (.head _)))))

/-! ### Values -/

theorem isBlanks_space : IsBlanks [' '] := isBlanks_cons_iff.2 ⟨rfl, isBlanks_nil⟩

theorem WritesItems.afterSpace (h : WritesItems s items) : WritesItems (' ' :: s) items := by
  cases h with
  | none hblanks => exact .none (isBlanks_cons_iff.2 ⟨rfl, hblanks⟩)
  | last hbefore hwrites hafter => exact .last (isBlanks_cons_iff.2 ⟨rfl, hbefore⟩) hwrites hafter
  | more hbefore hwrites hafter hrest => exact .more (isBlanks_cons_iff.2 ⟨rfl, hbefore⟩) hwrites hafter hrest

theorem WritesField.afterSpace {field : Text × Json} (h : WritesField s field) : WritesField (' ' :: s) field := by
  cases h with
  | field hbefore hkey hmiddle hgap hwrites hafter =>
    exact .field (isBlanks_cons_iff.2 ⟨rfl, hbefore⟩) hkey hmiddle hgap hwrites hafter

theorem WritesFields.afterSpace (h : WritesFields s fields) : WritesFields (' ' :: s) fields := by
  cases h with
  | none hblanks => exact .none (isBlanks_cons_iff.2 ⟨rfl, hblanks⟩)
  | last hfield => exact .last hfield.afterSpace
  | more hfield hrest => exact .more hfield.afterSpace hrest

/-- A field as the writer has it, with one blank behind the colon. -/
theorem writesField_write (k : Text) (h : Writes s v) :
    WritesField (writeString k ++ [':', ' '] ++ s) (k, v) := by
  have hfield := WritesField.field isBlanks_nil (writesString_writeString k) isBlanks_nil isBlanks_space h isBlanks_nil
  simpa using hfield

mutual

theorem writes_write : ∀ v : Json, Writes (write v) v
  | .null => by
    rw [write]
    exact .atom (.word (.head _))
  | .bool true => by
    rw [write]
    exact .atom (.word (.tail _ (.head _)))
  | .bool false => by
    rw [write]
    exact .atom (.word (.tail _ (.tail _ (.head _))))
  | .int n => by
    rw [write]
    exact .atom (writesAtom_writeInt n)
  | .real r => by
    rw [write]
    exact .atom (writesAtom_real r)
  | .str s => by
    rw [write]
    exact .str (writesString_writeString s)
  | .arr items => by
    rw [write]
    exact .arr (writesItems_writeItems items)
  | .obj fields => by
    rw [write]
    exact .obj (writesFields_writeFields fields)

theorem writesItems_writeItems : ∀ items : List Json, WritesItems (writeItems items) items
  | [] => .none isBlanks_nil
  | [v] => by
    have hlast := WritesItems.last isBlanks_nil (writes_write v) isBlanks_nil
    rw [writeItems]
    simpa using hlast
  | v :: w :: rest => by
    have hmore := WritesItems.more isBlanks_nil (writes_write v) isBlanks_nil
      (writesItems_writeItems (w :: rest)).afterSpace
    rw [writeItems]
    simpa using hmore

theorem writesFields_writeFields : ∀ fields : List (Text × Json), WritesFields (writeFields fields) fields
  | [] => .none isBlanks_nil
  | [(k, v)] => by
    rw [writeFields]
    exact .last (writesField_write k (writes_write v))
  | (k, v) :: w :: rest => by
    have hmore := WritesFields.more (writesField_write k (writes_write v))
      (writesFields_writeFields (w :: rest)).afterSpace
    rw [writeFields]
    simpa using hmore

end

theorem document_write (v : Json) : Document (write v) v := by
  simpa using Document.value isBlanks_nil (writes_write v) isBlanks_nil

/-- A value that was written is read back, however it is made, unless it is too deep. -/
theorem read_write (v : Json) (limit : Nat) :
    read (write v) limit = if v.depth ≤ limit then .ok v else .error .tooDeep :=
  read_of_document (document_write v) limit

/-! ### Characters -/

/-- Nothing but visible ASCII characters and blanks. -/
def IsPrintableAscii (s : Text) : Prop := ∀ c ∈ s, 0x20 ≤ c.toNat ∧ c.toNat < 0x7F

instance (s : Text) : Decidable (IsPrintableAscii s) :=
  List.decidableBAll (fun c : Char => 0x20 ≤ c.toNat ∧ c.toNat < 0x7F) s

theorem isPrintableAscii_cons_iff :
    IsPrintableAscii (c :: s) ↔ (0x20 ≤ c.toNat ∧ c.toNat < 0x7F) ∧ IsPrintableAscii s := List.forall_mem_cons

theorem isPrintableAscii_append_iff : IsPrintableAscii (s ++ t) ↔ IsPrintableAscii s ∧ IsPrintableAscii t :=
  List.forall_mem_append

theorem printable_of_numberChars (h : ∀ c ∈ s, isNumberChar c = true) : IsPrintableAscii s := by
  intro c hc
  have hnumber := h c hc
  simp only [isNumberChar, Bool.or_eq_true, beq_iff_eq] at hnumber
  rcases hnumber with ((((hdigit | rfl) | rfl) | rfl) | rfl) | rfl
  · obtain ⟨hlow, hhigh⟩ := Char.isDigit_iff_toNat.1 hdigit
    exact ⟨Nat.le_trans (by decide) hlow, Nat.lt_of_le_of_lt hhigh (by decide)⟩
  all_goals decide

theorem printable_unitEscape (n : Nat) : IsPrintableAscii (unitEscape n) := by
  have hdigit : ∀ k < 16, 0x20 ≤ (Text.hexDigit k).toNat ∧ (Text.hexDigit k).toNat < 0x7F := by decide
  simp only [unitEscape, Text.hexadecimal, List.nil_append, List.cons_append, isPrintableAscii_cons_iff]
  refine ⟨by decide, by decide, ?_, ?_, ?_, ?_, by decide⟩
  all_goals exact hdigit _ (Nat.mod_lt _ (by decide))

/-- The characters behind the backslash of short escapes. -/
theorem printable_shortEscape {e : Char} (h : shortEscape? e = some c) : IsPrintableAscii ['\\', e] := by
  have hsome : e ∈ ['"', '\\', '/', 'b', 'f', 'n', 'r', 't'] := by
    by_contra hnone
    simp only [List.mem_cons, List.not_mem_nil, or_false, not_or] at hnone
    simp [shortEscape?, hnone] at h
  simp only [List.mem_cons, List.not_mem_nil, or_false] at hsome
  rcases hsome with rfl | rfl | rfl | rfl | rfl | rfl | rfl | rfl <;> decide

theorem printable_writeChar (c : Char) : IsPrintableAscii (writeChar c) := by
  rcases writeChar_cases c with ⟨e, hshort, -, hwritten⟩ | ⟨-, -, hlow, hhigh, hwritten⟩ | ⟨-, hwritten⟩ | ⟨-, hwritten⟩
  · rw [hwritten]
    exact printable_shortEscape hshort
  · rw [hwritten]
    exact isPrintableAscii_cons_iff.2 ⟨⟨hlow, hhigh⟩, by decide⟩
  · rw [hwritten]
    exact printable_unitEscape _
  · rw [hwritten]
    exact isPrintableAscii_append_iff.2 ⟨printable_unitEscape _, printable_unitEscape _⟩

theorem printable_writeString (s : Text) : IsPrintableAscii (writeString s) := by
  have hinside : IsPrintableAscii (s.flatMap writeChar) := by
    intro d hd
    obtain ⟨c, -, hd⟩ := List.mem_flatMap.1 hd
    exact printable_writeChar c d hd
  exact isPrintableAscii_cons_iff.2 ⟨by decide, isPrintableAscii_append_iff.2 ⟨hinside, by decide⟩⟩

theorem printable_real (r : RealLiteral) : IsPrintableAscii r.text := by
  obtain ⟨text, hliteral | hinfinite⟩ := r
  · exact printable_of_numberChars (isNumber_of_real hliteral).chars
  · have hwords : ∀ word ∈ infinities, IsPrintableAscii word := by decide
    exact hwords text hinfinite

theorem printable_writeInt (n : Int) : IsPrintableAscii (writeInt n) := by
  have hdigits : IsPrintableAscii (Text.ofNat n.natAbs) :=
    printable_of_numberChars fun c hc => isNumberChar_of_isDigit (isDigit_of_mem_ofNat hc)
  unfold writeInt
  split
  · exact isPrintableAscii_cons_iff.2 ⟨by decide, hdigits⟩
  · exact hdigits

mutual

theorem printable_write : ∀ v : Json, IsPrintableAscii (write v)
  | .null => by
    rw [write]
    decide
  | .bool true => by
    rw [write]
    decide
  | .bool false => by
    rw [write]
    decide
  | .int n => by
    rw [write]
    exact printable_writeInt n
  | .real r => by
    rw [write]
    exact printable_real r
  | .str s => by
    rw [write]
    exact printable_writeString s
  | .arr items => by
    rw [write]
    exact isPrintableAscii_cons_iff.2
      ⟨by decide, isPrintableAscii_append_iff.2 ⟨printable_writeItems items, by decide⟩⟩
  | .obj fields => by
    rw [write]
    exact isPrintableAscii_cons_iff.2
      ⟨by decide, isPrintableAscii_append_iff.2 ⟨printable_writeFields fields, by decide⟩⟩

theorem printable_writeItems : ∀ items : List Json, IsPrintableAscii (writeItems items)
  | [] => by
    rw [writeItems]
    decide
  | [v] => printable_write v
  | v :: w :: rest => by
    rw [writeItems]
    simp only [isPrintableAscii_append_iff]
    exact ⟨⟨printable_write v, by decide⟩, printable_writeItems (w :: rest)⟩

theorem printable_writeFields : ∀ fields : List (Text × Json), IsPrintableAscii (writeFields fields)
  | [] => by
    rw [writeFields]
    decide
  | [(k, v)] => by
    rw [writeFields]
    simp only [isPrintableAscii_append_iff]
    exact ⟨⟨printable_writeString k, by decide⟩, printable_write v⟩
  | (k, v) :: w :: rest => by
    rw [writeFields]
    simp only [isPrintableAscii_append_iff]
    exact ⟨⟨⟨⟨printable_writeString k, by decide⟩, printable_write v⟩, by decide⟩,
      printable_writeFields (w :: rest)⟩

end

end Json

end SuppressionAudit

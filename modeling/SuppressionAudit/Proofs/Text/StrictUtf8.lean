import Mathlib.Data.List.Basic
import SuppressionAudit.Text.Utf8

/-!
# Strict UTF-8

The strict decoder takes the bytes of a text back to the text, and takes no other bytes. Both directions go
over the well-formed sequences of the encoding, one case for each length: the encoder writes them, and the
decoder gives a character for a sequence of them and for nothing else.
-/

namespace SuppressionAudit

namespace Utf8

variable {b : UInt8} {bytes rest : List UInt8} {c : Char} {p : Pending} {read : List Unit?}

/-! ### Characters and bytes as numbers -/

theorem char_range (c : Char) : c.toNat < 0xD800 ∨ 0xE000 ≤ c.toNat ∧ c.toNat < 0x110000 := by
  have hvalid := c.valid
  simp only [UInt32.isValidChar, Nat.isValidChar] at hvalid
  show c.val.toNat < _ ∨ _ ≤ c.val.toNat ∧ c.val.toNat < _
  omega

theorem char_toNat {n : Nat} (h : n < 0xD800 ∨ 0xE000 ≤ n ∧ n < 0x110000) : (Char.ofNat n).toNat = n := by
  have hvalid : n.isValidChar := by
    simp only [Nat.isValidChar]
    omega
  rw [Char.ofNat, dif_pos hvalid]
  rfl

theorem byte_toNat {n : Nat} (h : n < 256) : (UInt8.ofNat n).toNat = n := UInt8.toNat_ofNat_of_lt' h

theorem eq_ofNat_of_toNat {n : Nat} (h : b.toNat = n) : b = UInt8.ofNat n := by
  rw [← h, UInt8.ofNat_toNat]

/-! ### One byte at a time -/

theorem units_single (h : b.toNat < 0x80) : units none (b :: rest) = some (Char.ofNat b.toNat) :: units none rest := by
  simp only [units, lead, if_pos h]

theorem units_opens (h : lead b = .opens p) : units none (b :: rest) = units (some p) rest := by
  simp only [units, h]

theorem units_last (hcount : p.count ≤ 1) (hlow : p.low ≤ b.toNat) (hhigh : b.toNat ≤ p.high) :
    units (some p) (b :: rest) = some (Char.ofNat (p.value * 64 + (b.toNat - 0x80))) :: units none rest := by
  simp only [units, if_pos (And.intro hlow hhigh), if_pos hcount]

theorem units_next (hcount : 1 < p.count) (hlow : p.low ≤ b.toNat) (hhigh : b.toNat ≤ p.high) :
    units (some p) (b :: rest) =
      units (some ⟨p.count - 1, 0x80, 0xBF, p.value * 64 + (b.toNat - 0x80)⟩) rest := by
  simp only [units, if_pos (And.intro hlow hhigh), if_neg (Nat.not_le.2 hcount)]

/-- A sequence that was begun goes on with a byte in its range, or a replacement comes first. -/
theorem units_pending (h : units (some p) bytes = some c :: read) :
    ∃ b rest, bytes = b :: rest ∧ p.low ≤ b.toNat ∧ b.toNat ≤ p.high := by
  cases bytes with
  | nil => simp [units] at h
  | cons b rest =>
    by_cases hrange : p.low ≤ b.toNat ∧ b.toNat ≤ p.high
    · exact ⟨b, rest, rfl, hrange⟩
    · simp [units, if_neg hrange] at h

/-! ### Lead bytes -/

theorem lead_two (hlow : 0xC2 ≤ b.toNat) (hhigh : b.toNat < 0xE0) :
    lead b = .opens ⟨1, 0x80, 0xBF, b.toNat - 0xC0⟩ := by
  unfold lead
  dsimp only
  rw [if_neg (by omega), if_neg (by omega), if_pos (by omega)]

theorem lead_three (hlow : 0xE0 ≤ b.toNat) (hhigh : b.toNat < 0xF0) :
    lead b = .opens ⟨2, if b.toNat = 0xE0 then 0xA0 else 0x80, if b.toNat = 0xED then 0x9F else 0xBF,
      b.toNat - 0xE0⟩ := by
  unfold lead
  dsimp only
  rw [if_neg (by omega), if_neg (by omega), if_neg (by omega), if_pos (by omega)]

theorem lead_four (hlow : 0xF0 ≤ b.toNat) (hhigh : b.toNat < 0xF5) :
    lead b = .opens ⟨3, if b.toNat = 0xF0 then 0x90 else 0x80, if b.toNat = 0xF4 then 0x8F else 0xBF,
      b.toNat - 0xF0⟩ := by
  unfold lead
  dsimp only
  rw [if_neg (by omega), if_neg (by omega), if_neg (by omega), if_neg (by omega), if_pos (by omega)]

/-- A byte in lead position that stands for something. -/
theorem lead_cases (h : units none (b :: rest) = some c :: read) :
    b.toNat < 0x80 ∨ (0xC2 ≤ b.toNat ∧ b.toNat < 0xE0) ∨ (0xE0 ≤ b.toNat ∧ b.toNat < 0xF0) ∨
      (0xF0 ≤ b.toNat ∧ b.toNat < 0xF5) := by
  by_contra hnone
  have hmisfit : lead b = .misfit := by
    unfold lead
    dsimp only
    split_ifs <;> first | omega | rfl
  simp [units, hmisfit] at h

/-! ### Well-formed sequences -/

def Continues (b : UInt8) : Prop := 0x80 ≤ b.toNat ∧ b.toNat ≤ 0xBF

/-- The well-formed sequences and what they stand for. The conditions on the second byte leave out overlong
forms, surrogates and what lies above all characters. -/
inductive Sequence : List UInt8 → Nat → Prop
  | one {b : UInt8} : b.toNat < 0x80 → Sequence [b] b.toNat
  | two {b b₁ : UInt8} : 0xC2 ≤ b.toNat → b.toNat < 0xE0 → Continues b₁ →
      Sequence [b, b₁] ((b.toNat - 0xC0) * 64 + (b₁.toNat - 0x80))
  | three {b b₁ b₂ : UInt8} : 0xE0 ≤ b.toNat → b.toNat < 0xF0 → Continues b₁ →
      (b.toNat = 0xE0 → 0xA0 ≤ b₁.toNat) → (b.toNat = 0xED → b₁.toNat ≤ 0x9F) → Continues b₂ →
      Sequence [b, b₁, b₂] (((b.toNat - 0xE0) * 64 + (b₁.toNat - 0x80)) * 64 + (b₂.toNat - 0x80))
  | four {b b₁ b₂ b₃ : UInt8} : 0xF0 ≤ b.toNat → b.toNat < 0xF5 → Continues b₁ →
      (b.toNat = 0xF0 → 0x90 ≤ b₁.toNat) → (b.toNat = 0xF4 → b₁.toNat ≤ 0x8F) → Continues b₂ → Continues b₃ →
      Sequence [b, b₁, b₂, b₃]
        ((((b.toNat - 0xF0) * 64 + (b₁.toNat - 0x80)) * 64 + (b₂.toNat - 0x80)) * 64 + (b₃.toNat - 0x80))

theorem Sequence.char {n : Nat} (h : Sequence bytes n) : (Char.ofNat n).toNat = n := by
  apply char_toNat
  cases h with
  | one hb => omega
  | two hlow hhigh h₁ =>
    unfold Continues at h₁
    omega
  | three hlow hhigh h₁ hleast hmost h₂ =>
    unfold Continues at h₁ h₂
    omega
  | four hlow hhigh h₁ hleast hmost h₂ h₃ =>
    unfold Continues at h₁ h₂ h₃
    omega

theorem sequence_encodeChar (c : Char) : Sequence (encodeChar c) c.toNat := by
  have hrange := char_range c
  unfold encodeChar
  dsimp only
  split_ifs with hone htwo hthree
  · have h := @Sequence.one (UInt8.ofNat c.toNat)
    rw [byte_toNat (by omega)] at h
    exact h hone
  · have h := @Sequence.two (UInt8.ofNat (0xC0 + c.toNat / 64)) (UInt8.ofNat (0x80 + c.toNat % 64))
    unfold Continues at h
    rw [byte_toNat (by omega), byte_toNat (by omega)] at h
    convert h (by omega) (by omega) (by omega) using 1
    omega
  · have h := @Sequence.three (UInt8.ofNat (0xE0 + c.toNat / 4096)) (UInt8.ofNat (0x80 + c.toNat / 64 % 64))
      (UInt8.ofNat (0x80 + c.toNat % 64))
    unfold Continues at h
    rw [byte_toNat (by omega), byte_toNat (by omega), byte_toNat (by omega)] at h
    convert h (by omega) (by omega) (by omega) (by omega) (by omega) (by omega) using 1
    omega
  · have h := @Sequence.four (UInt8.ofNat (0xF0 + c.toNat / 262144)) (UInt8.ofNat (0x80 + c.toNat / 4096 % 64))
      (UInt8.ofNat (0x80 + c.toNat / 64 % 64)) (UInt8.ofNat (0x80 + c.toNat % 64))
    unfold Continues at h
    rw [byte_toNat (by omega), byte_toNat (by omega), byte_toNat (by omega), byte_toNat (by omega)] at h
    convert h (by omega) (by omega) (by omega) (by omega) (by omega) (by omega) (by omega) using 1
    omega

/-- A character has no other sequence than the one that is written for it. -/
theorem Sequence.eq_encodeChar (h : Sequence bytes c.toNat) : bytes = encodeChar c := by
  generalize hn : c.toNat = n at h
  unfold encodeChar
  dsimp only
  rw [hn]
  cases h with
  | one hb => rw [if_pos hb, UInt8.ofNat_toNat]
  | @two b b₁ hlow hhigh h₁ =>
    unfold Continues at h₁
    rw [if_neg (by omega), if_pos (by omega), ← eq_ofNat_of_toNat (b := b) (by omega),
      ← eq_ofNat_of_toNat (b := b₁) (by omega)]
  | @three b b₁ b₂ hlow hhigh h₁ hleast hmost h₂ =>
    unfold Continues at h₁ h₂
    rw [if_neg (by omega), if_neg (by omega), if_pos (by omega), ← eq_ofNat_of_toNat (b := b) (by omega),
      ← eq_ofNat_of_toNat (b := b₁) (by omega), ← eq_ofNat_of_toNat (b := b₂) (by omega)]
  | @four b b₁ b₂ b₃ hlow hhigh h₁ hleast hmost h₂ h₃ =>
    unfold Continues at h₁ h₂ h₃
    rw [if_neg (by omega), if_neg (by omega), if_neg (by omega), ← eq_ofNat_of_toNat (b := b) (by omega),
      ← eq_ofNat_of_toNat (b := b₁) (by omega), ← eq_ofNat_of_toNat (b := b₂) (by omega),
      ← eq_ofNat_of_toNat (b := b₃) (by omega)]

theorem Sequence.units_append {n : Nat} (h : Sequence bytes n) (rest : List UInt8) :
    units none (bytes ++ rest) = some (Char.ofNat n) :: units none rest := by
  cases h with
  | one hb => exact units_single hb
  | two hlow hhigh h₁ =>
    simp only [List.cons_append, List.nil_append]
    rw [units_opens (lead_two hlow hhigh), units_last (Nat.le_refl 1) h₁.1 h₁.2]
  | three hlow hhigh h₁ hleast hmost h₂ =>
    unfold Continues at h₁
    simp only [List.cons_append, List.nil_append]
    rw [units_opens (lead_three hlow hhigh),
      units_next (by simp) (by dsimp only; split <;> omega) (by dsimp only; split <;> omega),
      units_last (by simp) h₂.1 h₂.2]
  | four hlow hhigh h₁ hleast hmost h₂ h₃ =>
    unfold Continues at h₁
    simp only [List.cons_append, List.nil_append]
    rw [units_opens (lead_four hlow hhigh),
      units_next (by simp) (by dsimp only; split <;> omega) (by dsimp only; split <;> omega),
      units_next (by simp) h₂.1 h₂.2, units_last (by simp) h₃.1 h₃.2]

/-- What is decoded first is a sequence. -/
theorem sequence_of_units (h : units none bytes = some c :: read) :
    ∃ front rest, bytes = front ++ rest ∧ Sequence front c.toNat ∧ units none rest = read := by
  -- the sequence that is found stands for the character that was read
  have hfound : ∀ {front rest n}, Sequence front n → bytes = front ++ rest →
      some (Char.ofNat n) :: units none rest = some c :: read →
      ∃ front rest, bytes = front ++ rest ∧ Sequence front c.toNat ∧ units none rest = read := by
    intro front rest n hseq hbytes heq
    obtain ⟨hc, hread⟩ := List.cons.inj heq
    have hn : c.toNat = n := by rw [← Option.some.inj hc, hseq.char]
    exact ⟨front, rest, hbytes, hn ▸ hseq, hread⟩
  cases bytes with
  | nil => simp [units] at h
  | cons b rest =>
    rcases lead_cases h with hone | ⟨hlow, hhigh⟩ | ⟨hlow, hhigh⟩ | ⟨hlow, hhigh⟩
    · rw [units_single hone] at h
      exact hfound (.one hone) rfl h
    · rw [units_opens (lead_two hlow hhigh)] at h
      obtain ⟨b₁, rest, rfl, hlow₁, hhigh₁⟩ := units_pending h
      rw [units_last (by simp) hlow₁ hhigh₁] at h
      exact hfound (.two hlow hhigh ⟨hlow₁, hhigh₁⟩) rfl h
    · rw [units_opens (lead_three hlow hhigh)] at h
      obtain ⟨b₁, rest, rfl, hlow₁, hhigh₁⟩ := units_pending h
      rw [units_next (by simp) hlow₁ hhigh₁] at h
      obtain ⟨b₂, rest, rfl, hlow₂, hhigh₂⟩ := units_pending h
      rw [units_last (by simp) hlow₂ hhigh₂] at h
      dsimp only at hlow₁ hhigh₁
      split at hlow₁ <;> split at hhigh₁
      all_goals
        exact hfound (.three hlow hhigh ⟨by omega, by omega⟩ (by omega) (by omega) ⟨hlow₂, hhigh₂⟩) rfl h
    · rw [units_opens (lead_four hlow hhigh)] at h
      obtain ⟨b₁, rest, rfl, hlow₁, hhigh₁⟩ := units_pending h
      rw [units_next (by simp) hlow₁ hhigh₁] at h
      obtain ⟨b₂, rest, rfl, hlow₂, hhigh₂⟩ := units_pending h
      rw [units_next (by simp) hlow₂ hhigh₂] at h
      obtain ⟨b₃, rest, rfl, hlow₃, hhigh₃⟩ := units_pending h
      rw [units_last (by simp) hlow₃ hhigh₃] at h
      dsimp only at hlow₁ hhigh₁
      split at hlow₁ <;> split at hhigh₁
      all_goals
        exact hfound (.four hlow hhigh ⟨by omega, by omega⟩ (by omega) (by omega) ⟨hlow₂, hhigh₂⟩
          ⟨hlow₃, hhigh₃⟩) rfl h

/-! ### One character -/

theorem units_encodeChar (c : Char) (rest : List UInt8) :
    units none (encodeChar c ++ rest) = some c :: units none rest := by
  rw [(sequence_encodeChar c).units_append, Char.ofNat_toNat]

/-- What is decoded first was written by its own bytes. -/
theorem encodeChar_of_units (h : units none bytes = some c :: read) :
    ∃ rest, bytes = encodeChar c ++ rest ∧ units none rest = read := by
  obtain ⟨front, rest, rfl, hseq, hread⟩ := sequence_of_units h
  exact ⟨rest, by rw [hseq.eq_encodeChar], hread⟩

/-! ### Texts -/

theorem units_pending_ne_nil (p : Pending) (bytes : List UInt8) : units (some p) bytes ≠ [] := by
  induction bytes generalizing p with
  | nil => simp [units]
  | cons b rest ih =>
    unfold units
    dsimp only
    split_ifs
    · exact List.cons_ne_nil _ _
    · exact ih _
    · exact List.cons_ne_nil _ _

theorem units_ne_nil (b : UInt8) (rest : List UInt8) : units none (b :: rest) ≠ [] := by
  unfold units
  cases lead b with
  | single c => exact List.cons_ne_nil _ _
  | opens p => exact units_pending_ne_nil p rest
  | misfit => exact List.cons_ne_nil _ _

theorem units_encode_append (s : Text) (rest : List UInt8) :
    units none (encode s ++ rest) = s.map some ++ units none rest := by
  induction s with
  | nil => rfl
  | cons c s ih =>
    have hcons : encode (c :: s) ++ rest = encodeChar c ++ (encode s ++ rest) := List.append_assoc _ _ _
    rw [hcons, units_encodeChar, ih]
    rfl

theorem units_encode (s : Text) : units none (encode s) = s.map some := by
  simpa [units] using units_encode_append s []

theorem encode_of_units {s : Text} (h : units none bytes = s.map some) : bytes = encode s := by
  induction s generalizing bytes with
  | nil =>
    cases bytes with
    | nil => rfl
    | cons b rest => exact absurd h (units_ne_nil b rest)
  | cons c s ih =>
    obtain ⟨rest, rfl, hrest⟩ := encodeChar_of_units h
    rw [ih hrest]
    rfl

theorem mapM_id_eq_some_iff {s : Text} : read.mapM id = some s ↔ read = s.map some := by
  induction read generalizing s with
  | nil => cases s <;> simp
  | cons unit read ih =>
    cases unit with
    | none => cases s <;> simp
    | some c =>
      have hcons : (some c :: read).mapM id = (read.mapM id).map (c :: ·) := by
        rw [List.mapM_cons]
        cases read.mapM id <;> rfl
      rw [hcons, Option.map_eq_some_iff]
      simp only [ih]
      cases s with
      | nil => simp
      | cons d s =>
        constructor
        · rintro ⟨text, rfl, heq⟩
          obtain ⟨rfl, rfl⟩ := List.cons.inj heq
          rfl
        · intro heq
          obtain ⟨hc, rfl⟩ := List.cons.inj heq
          exact ⟨s, rfl, by rw [Option.some.inj hc]⟩

/-- The strict decoder reads the bytes of texts, each as its own. -/
theorem decode?_eq_some_iff {s : Text} : decode? bytes = some s ↔ bytes = encode s := by
  rw [decode?, mapM_id_eq_some_iff]
  constructor
  · exact encode_of_units
  · rintro rfl
    exact units_encode s

theorem encode_injective : Function.Injective encode := by
  intro s t h
  have hs : decode? (encode s) = some s := decode?_eq_some_iff.2 rfl
  exact Option.some.inj (hs.symm.trans (decode?_eq_some_iff.2 h))

end Utf8

end SuppressionAudit

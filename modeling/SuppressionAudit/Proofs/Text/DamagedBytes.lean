import Mathlib.Algebra.GroupWithZero.Nat
import SuppressionAudit.Proofs.Text.StrictUtf8
import SuppressionAudit.Text.LineBreak

/-!
# Bytes that are not UTF-8

Whatever bytes stand in front of it, an ASCII byte is decoded as its own character, and nothing else is: a
sequence that was begun ends in front of it. So damaged bytes neither hide a line break nor make one, and a
text has as many lines as its bytes have line breaks, whatever kinds of them are mixed.
-/

namespace SuppressionAudit

namespace Utf8

variable {b : UInt8} {bytes rest : List UInt8} {p : Pending}

/-! ### Sequences that were begun -/

/-- A sequence of several bytes: the next one is no ASCII byte, and the least character that the sequence can
stand for is none either. -/
structure Pending.IsLong (p : Pending) : Prop where
  low : 0x80 ≤ p.low
  least : 0x80 ≤ (p.value * 64 + (p.low - 0x80)) * 64 ^ (p.count - 1)

/-- A sequence that a lead byte opens is one of several bytes. -/
theorem isLong_of_lead (h : lead b = .opens p) : 0x80 ≤ b.toNat ∧ p.IsLong := by
  unfold lead at h
  dsimp only at h
  split_ifs at h
  all_goals
    obtain rfl := Lead.opens.inj h
    refine ⟨by omega, by simp, ?_⟩
    dsimp only
    omega

theorem small_of_lead {c : Char} (h : lead b = .single c) : b.toNat < 0x80 := by
  by_contra hlarge
  unfold lead at h
  dsimp only at h
  split_ifs at h

theorem large_of_misfit (h : lead b = .misfit) : 0x80 ≤ b.toNat := by
  by_contra hsmall
  unfold lead at h
  dsimp only at h
  rw [if_pos (by omega)] at h
  cases h

theorem Pending.IsLong.next (h : p.IsLong) (hcount : 1 < p.count) (hlow : p.low ≤ b.toNat) :
    (⟨p.count - 1, 0x80, 0xBF, p.value * 64 + (b.toNat - 0x80)⟩ : Pending).IsLong := by
  refine ⟨Nat.le_refl _, ?_⟩
  obtain ⟨more, hmore⟩ : ∃ more, p.count = more + 2 := ⟨p.count - 2, by omega⟩
  have hnow : p.count - 1 = more + 1 := by omega
  have hleast := h.least
  rw [hnow] at hleast
  have hnext : p.count - 1 - 1 = more := by omega
  have hgrows : p.value * 64 + (p.low - 0x80) ≤ p.value * 64 + (b.toNat - 0x80) := by omega
  simp only [hnext, Nat.sub_self, Nat.add_zero]
  calc 0x80 ≤ (p.value * 64 + (p.low - 0x80)) * 64 ^ (more + 1) := hleast
    _ ≤ (p.value * 64 + (b.toNat - 0x80)) * 64 ^ (more + 1) := Nat.mul_le_mul_right _ hgrows
    _ = (p.value * 64 + (b.toNat - 0x80)) * 64 * 64 ^ more := by rw [Nat.pow_succ', Nat.mul_assoc]

theorem Pending.IsLong.last (h : p.IsLong) (hcount : p.count ≤ 1) (hlow : p.low ≤ b.toNat) :
    0x80 ≤ p.value * 64 + (b.toNat - 0x80) := by
  have hleast := h.least
  rw [Nat.sub_eq_zero_of_le hcount, Nat.pow_zero, Nat.mul_one] at hleast
  omega

/-! ### Decoding step by step -/

theorem units_misfit (h : lead b = .misfit) : units none (b :: rest) = none :: units none rest := by
  simp only [units, h]

/-- A sequence that does not go on is replaced, and decoding goes on with the byte that did not fit. -/
theorem units_broken (h : ¬ (p.low ≤ b.toNat ∧ b.toNat ≤ p.high)) :
    units (some p) (b :: rest) = none :: units none (b :: rest) := by
  simp only [units, if_neg h]

/-- Induction on how bytes are decoded: one case for each thing that a byte can do. -/
theorem units_induction {motive : Option Pending → List UInt8 → Prop} (nil : motive none [])
    (cut : ∀ p : Pending, p.IsLong → motive (some p) [])
    (single : ∀ b rest, b.toNat < 0x80 → motive none rest → motive none (b :: rest))
    (opens : ∀ b rest p, 0x80 ≤ b.toNat → lead b = .opens p → motive (some p) rest → motive none (b :: rest))
    (misfit : ∀ b rest, 0x80 ≤ b.toNat → lead b = .misfit → motive none rest → motive none (b :: rest))
    (last : ∀ (p : Pending) b rest, p.IsLong → p.count ≤ 1 → p.low ≤ b.toNat → b.toNat ≤ p.high →
      motive none rest → motive (some p) (b :: rest))
    (next : ∀ (p : Pending) b rest, p.IsLong → 1 < p.count → p.low ≤ b.toNat → b.toNat ≤ p.high →
      motive (some ⟨p.count - 1, 0x80, 0xBF, p.value * 64 + (b.toNat - 0x80)⟩) rest → motive (some p) (b :: rest))
    (broken : ∀ (p : Pending) b rest, p.IsLong → ¬ (p.low ≤ b.toNat ∧ b.toNat ≤ p.high) →
      motive none (b :: rest) → motive (some p) (b :: rest))
    (bytes : List UInt8) {open? : Option Pending} (hopen : ∀ p ∈ open?, p.IsLong) : motive open? bytes := by
  induction bytes generalizing open? with
  | nil =>
    cases open? with
    | none => exact nil
    | some p => exact cut p (hopen p rfl)
  | cons b rest ih =>
    have hrest : motive none rest := ih (by simp)
    have hfresh : motive none (b :: rest) := by
      cases hlead : lead b with
      | single c => exact single b rest (small_of_lead hlead) hrest
      | opens p =>
        obtain ⟨hlarge, hlong⟩ := isLong_of_lead hlead
        exact opens b rest p hlarge hlead (ih (by simpa using hlong))
      | misfit => exact misfit b rest (large_of_misfit hlead) hlead hrest
    cases open? with
    | none => exact hfresh
    | some p =>
      have hlong := hopen p rfl
      by_cases hrange : p.low ≤ b.toNat ∧ b.toNat ≤ p.high
      · by_cases hcount : p.count ≤ 1
        · exact last p b rest hlong hcount hrange.1 hrange.2 hrest
        · have hmore : 1 < p.count := Nat.not_le.1 hcount
          exact next p b rest hlong hmore hrange.1 hrange.2 (ih (by simpa using hlong.next hmore hrange.1))
      · exact broken p b rest hlong hrange hfresh

/-! ### ASCII bytes -/

/-- An ASCII byte is decoded as its own character, whatever was begun in front of it. -/
theorem units_append_ascii (hb : b.toNat < 0x80) (rest front : List UInt8) {open? : Option Pending}
    (hopen : ∀ p ∈ open?, p.IsLong) :
    units open? (front ++ b :: rest) = units open? front ++ some (Char.ofNat b.toNat) :: units none rest := by
  refine units_induction (motive := fun open? front =>
    units open? (front ++ b :: rest) = units open? front ++ some (Char.ofNat b.toNat) :: units none rest)
    ?nil ?cut ?single ?opens ?misfit ?last ?next ?broken front hopen
  case nil => exact units_single hb
  case cut =>
    intro p hp
    have hlow := hp.low
    rw [List.nil_append, units_broken (by omega), units_single hb]
    rfl
  case single =>
    intro a front ha ih
    rw [List.cons_append, units_single ha, units_single ha, ih, List.cons_append]
  case opens =>
    intro a front p _ hlead ih
    rw [List.cons_append, units_opens hlead, units_opens hlead, ih]
  case misfit =>
    intro a front _ hlead ih
    rw [List.cons_append, units_misfit hlead, units_misfit hlead, ih, List.cons_append]
  case last =>
    intro p a front _ hcount hlow hhigh ih
    rw [List.cons_append, units_last hcount hlow hhigh, units_last hcount hlow hhigh, ih, List.cons_append]
  case next =>
    intro p a front _ hcount hlow hhigh ih
    rw [List.cons_append, units_next hcount hlow hhigh, units_next hcount hlow hhigh, ih]
  case broken =>
    intro p a front _ hrange ih
    rw [List.cons_append, units_broken hrange, units_broken hrange, ← List.cons_append, ih, List.cons_append]

theorem decodeLossy_append_ascii (hb : b.toNat < 0x80) (front rest : List UInt8) :
    decodeLossy (front ++ b :: rest) = decodeLossy front ++ Char.ofNat b.toNat :: decodeLossy rest := by
  unfold decodeLossy
  rw [units_append_ascii hb rest front (by simp), List.map_append, List.map_cons]
  rfl

/-- What was written is decoded as it was written, whatever follows. -/
theorem decodeLossy_encode_append (s : Text) (rest : List UInt8) :
    decodeLossy (encode s ++ rest) = s ++ decodeLossy rest := by
  unfold decodeLossy
  rw [units_encode_append, List.map_append, List.map_map]
  exact congrArg (· ++ _) (List.map_id s)

end Utf8

/-! ### Unified line breaks -/

namespace Text

variable {c : Char}

theorem unifyAfter_other (hreturn : c ≠ '\r') (hnewline : c ≠ '\n') (wasReturn : Bool) (s : Text) :
    unifyAfter wasReturn (c :: s) = c :: unifyAfter false s := by
  simp [unifyAfter, hreturn, hnewline]

theorem count_unifyAfter_other (hreturn : c ≠ '\r') (hnewline : c ≠ '\n') (wasReturn : Bool) (s : Text) :
    (unifyAfter wasReturn (c :: s)).count '\n' = (unifyAfter false s).count '\n' := by
  rw [unifyAfter_other hreturn hnewline, List.count_cons_of_ne hnewline]

/-- Behind a newline nothing depends on what stands in front of it. -/
theorem unifyAfter_append_newline (wasReturn : Bool) (s t : Text) :
    unifyAfter wasReturn (s ++ '\n' :: t) = unifyAfter wasReturn (s ++ ['\n']) ++ unifyAfter false t := by
  induction s generalizing wasReturn with
  | nil => cases wasReturn <;> simp [unifyAfter]
  | cons c s ih =>
    by_cases hreturn : c = '\r'
    · simp [unifyAfter, hreturn, ih]
    · by_cases hnewline : c = '\n'
      · cases wasReturn <;> simp [unifyAfter, hnewline, ih]
      · simp only [List.cons_append, unifyAfter_other hreturn hnewline, ih]

/-- What ends in a newline does so with unified line breaks. -/
theorem exists_unifyAfter_newline (wasReturn : Bool) (s : Text) (h : s ≠ [] ∨ wasReturn = false) :
    ∃ front, unifyAfter wasReturn (s ++ ['\n']) = front ++ ['\n'] := by
  induction s generalizing wasReturn with
  | nil =>
    obtain rfl : wasReturn = false := h.resolve_left fun hne => hne rfl
    exact ⟨[], rfl⟩
  | cons c s ih =>
    obtain ⟨front, hfront⟩ := ih false (.inr rfl)
    by_cases hreturn : c = '\r'
    · subst hreturn
      cases s with
      | nil => exact ⟨[], rfl⟩
      | cons d s =>
        obtain ⟨front, hfront⟩ := ih true (.inl (List.cons_ne_nil d s))
        exact ⟨'\n' :: front, congrArg ('\n' :: ·) hfront⟩
    · by_cases hnewline : c = '\n'
      · subst hnewline
        cases wasReturn with
        | true => exact ⟨front, hfront⟩
        | false => exact ⟨'\n' :: front, congrArg ('\n' :: ·) hfront⟩
      · exact ⟨c :: front, by rw [List.cons_append, unifyAfter_other hreturn hnewline, hfront, List.cons_append]⟩

end Text

namespace Utf8

variable {b : UInt8} {rest : List UInt8}

/-! ### Line breaks -/

/-- The line breaks in bytes. A carriage return with a newline behind it is one of them, and so is either alone. -/
def lineBreaks : List UInt8 → Nat
  | [] => 0
  | 13 :: 10 :: rest => 1 + lineBreaks rest
  | b :: rest => (if b = 13 ∨ b = 10 then 1 else 0) + lineBreaks rest

/-- Bytes without the newline that belongs to a carriage return in front of them. -/
def afterReturn : Bool → List UInt8 → List UInt8
  | true, 10 :: rest => rest
  | _, bytes => bytes

theorem afterReturn_false (bytes : List UInt8) : afterReturn false bytes = bytes := rfl

theorem afterReturn_other (hnewline : b ≠ 10) (wasReturn : Bool) (rest : List UInt8) :
    afterReturn wasReturn (b :: rest) = b :: rest := by
  unfold afterReturn
  split
  · next heq => exact absurd (List.cons.inj heq).1 hnewline
  · rfl

theorem lineBreaks_return (rest : List UInt8) :
    lineBreaks (13 :: rest) = 1 + lineBreaks (afterReturn true rest) := by
  cases rest with
  | nil => rfl
  | cons b rest =>
    by_cases hb : b = 10
    · rw [hb]
      rfl
    · rw [afterReturn_other hb, lineBreaks]
      · rfl
      · simpa using hb

theorem lineBreaks_newline (rest : List UInt8) : lineBreaks (10 :: rest) = 1 + lineBreaks rest := by
  rw [lineBreaks]
  · rfl
  · simp

theorem lineBreaks_other (hreturn : b ≠ 13) (hnewline : b ≠ 10) (rest : List UInt8) :
    lineBreaks (b :: rest) = lineBreaks rest := by
  rw [lineBreaks]
  · simp [hreturn, hnewline]
  · simp [hreturn]

theorem lineBreaks_afterReturn_other (hb : 0x80 ≤ b.toNat) (wasReturn : Bool) (rest : List UInt8) :
    lineBreaks (afterReturn wasReturn (b :: rest)) = lineBreaks rest := by
  have hreturn : b ≠ 13 := by
    rintro rfl
    exact absurd hb (by decide)
  have hnewline : b ≠ 10 := by
    rintro rfl
    exact absurd hb (by decide)
  rw [afterReturn_other hnewline, lineBreaks_other hreturn hnewline]

theorem ofNat_ne_of_large {n : Nat} (h : 0x80 ≤ n) : Char.ofNat n ≠ '\r' ∧ Char.ofNat n ≠ '\n' := by
  by_cases hvalid : n.isValidChar
  · have hcode : (Char.ofNat n).toNat = n := by
      rw [Char.ofNat, dif_pos hvalid]
      rfl
    constructor
    · intro hc
      rw [hc] at hcode
      exact absurd (hcode ▸ h) (by decide)
    · intro hc
      rw [hc] at hcode
      exact absurd (hcode ▸ h) (by decide)
  · rw [Char.ofNat, dif_neg hvalid]
    decide

/-- An ASCII byte makes as many newlines as it makes line breaks, with what follows it. -/
theorem count_unifyAfter_ascii (hb : b.toNat < 0x80) {s : Text}
    (hrest : ∀ wasReturn, (Text.unifyAfter wasReturn s).count '\n' = lineBreaks (afterReturn wasReturn rest))
    (wasReturn : Bool) :
    (Text.unifyAfter wasReturn (Char.ofNat b.toNat :: s)).count '\n'
      = lineBreaks (afterReturn wasReturn (b :: rest)) := by
  by_cases hreturn : b = 13
  · subst hreturn
    rw [afterReturn_other (by decide), lineBreaks_return, ← hrest true, Nat.add_comm]
    exact List.count_cons_self
  · by_cases hnewline : b = 10
    · subst hnewline
      cases wasReturn with
      | true => exact hrest false
      | false =>
        rw [afterReturn_false, lineBreaks_newline, ← afterReturn_false rest, ← hrest false, Nat.add_comm]
        exact List.count_cons_self
    · have hcode : (Char.ofNat b.toNat).toNat = b.toNat := char_toNat (by omega)
      have hreturnChar : Char.ofNat b.toNat ≠ '\r' := fun hc =>
        hreturn (eq_ofNat_of_toNat (hcode.symm.trans (congrArg Char.toNat hc)))
      have hnewlineChar : Char.ofNat b.toNat ≠ '\n' := fun hc =>
        hnewline (eq_ofNat_of_toNat (hcode.symm.trans (congrArg Char.toNat hc)))
      rw [Text.count_unifyAfter_other hreturnChar hnewlineChar, hrest, afterReturn_false,
        afterReturn_other hnewline, lineBreaks_other hreturn hnewline]

/-- A text has the line breaks of its bytes. -/
theorem count_unifyAfter_units (bytes : List UInt8) {open? : Option Pending} (hopen : ∀ p ∈ open?, p.IsLong) :
    ∀ wasReturn, (Text.unifyAfter wasReturn ((units open? bytes).map (·.getD replacement))).count '\n'
      = lineBreaks (afterReturn (wasReturn && open?.isNone) bytes) := by
  have hreplacement : replacement ≠ '\r' ∧ replacement ≠ '\n' := by decide
  refine units_induction (motive := fun open? bytes => ∀ wasReturn,
      (Text.unifyAfter wasReturn ((units open? bytes).map (·.getD replacement))).count '\n'
        = lineBreaks (afterReturn (wasReturn && open?.isNone) bytes))
    ?nil ?cut ?single ?opens ?misfit ?last ?next ?broken bytes hopen
  case nil =>
    intro wasReturn
    cases wasReturn <;> rfl
  case cut =>
    intro p _ wasReturn
    rw [Option.isNone_some, Bool.and_false]
    exact Text.count_unifyAfter_other hreplacement.1 hreplacement.2 wasReturn []
  case single =>
    intro b rest hb ih wasReturn
    simp only [Option.isNone_none, Bool.and_true] at ih ⊢
    rw [units_single hb, List.map_cons, Option.getD_some]
    exact count_unifyAfter_ascii hb ih wasReturn
  case opens =>
    intro b rest p hb hlead ih wasReturn
    rw [units_opens hlead, ih, Option.isNone_some, Bool.and_false, lineBreaks_afterReturn_other hb]
    rfl
  case misfit =>
    intro b rest hb hlead ih wasReturn
    rw [units_misfit hlead, List.map_cons, Option.getD_none,
      Text.count_unifyAfter_other hreplacement.1 hreplacement.2, ih, lineBreaks_afterReturn_other hb]
    rfl
  case last =>
    intro p b rest hp hcount hlow hhigh ih wasReturn
    obtain ⟨hreturn, hnewline⟩ := ofNat_ne_of_large (hp.last hcount hlow)
    rw [units_last hcount hlow hhigh, List.map_cons, Option.getD_some, Text.count_unifyAfter_other hreturn hnewline,
      ih, lineBreaks_afterReturn_other (Nat.le_trans hp.low hlow)]
    rfl
  case next =>
    intro p b rest hp hcount hlow hhigh ih wasReturn
    rw [units_next hcount hlow hhigh, ih, lineBreaks_afterReturn_other (Nat.le_trans hp.low hlow), Option.isNone_some,
      Bool.and_false]
    rfl
  case broken =>
    intro p b rest _ hrange ih wasReturn
    rw [units_broken hrange, List.map_cons, Option.getD_none,
      Text.count_unifyAfter_other hreplacement.1 hreplacement.2, ih, Option.isNone_some, Bool.and_false]
    rfl

/-- The lines of a file are cut where its bytes have line breaks. -/
theorem count_unifyLineBreaks_decodeLossy (bytes : List UInt8) :
    (Text.unifyLineBreaks (decodeLossy bytes)).count '\n' = lineBreaks bytes :=
  count_unifyAfter_units bytes (by simp) false

end Utf8

end SuppressionAudit

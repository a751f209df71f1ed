import SuppressionAudit.Text

/-!
# UTF-8

Files are bytes. Source files are decoded so that no byte sequence is refused: a maximal part of a
sequence that cannot be continued becomes one replacement character and decoding goes on with the
byte that did not fit. The allowlist is decoded strictly. A lead byte fixes how many bytes follow
and the range of the first of them; all later ones lie in `80..BF`.
-/

namespace SuppressionAudit

namespace Utf8

/-- What a lead byte announces: the bytes still to come, the range of the next one, and the value
gathered so far. -/
structure Pending where
  count : Nat
  low : Nat
  high : Nat
  value : Nat
deriving DecidableEq, Repr

/-- The two things that a byte in lead position can be, besides a misfit. -/
inductive Lead where
  | single (c : Char)
  | opens (p : Pending)
  | misfit

/-- Reads a byte in lead position. -/
def lead (b : UInt8) : Lead :=
  let n := b.toNat
  if n < 0x80 then .single (Char.ofNat n)
  else if n < 0xC2 then .misfit
  else if n < 0xE0 then .opens ⟨1, 0x80, 0xBF, n - 0xC0⟩
  else if n < 0xF0 then
    .opens ⟨2, if n = 0xE0 then 0xA0 else 0x80, if n = 0xED then 0x9F else 0xBF, n - 0xE0⟩
  else if n < 0xF5 then
    .opens ⟨3, if n = 0xF0 then 0x90 else 0x80, if n = 0xF4 then 0x8F else 0xBF, n - 0xF0⟩
  else .misfit

/-- A decoded unit: a character, or a place where the bytes do not form one. -/
abbrev Unit? := Option Char

/-- The units of a byte sequence, with `open?` the sequence begun before it. -/
def units : Option Pending → List UInt8 → List Unit?
  | none, [] => []
  | some _, [] => [none]
  | none, b :: bytes =>
    match lead b with
    | .single c => some c :: units none bytes
    | .opens p => units (some p) bytes
    | .misfit => none :: units none bytes
  | some p, b :: bytes =>
    if p.low ≤ b.toNat ∧ b.toNat ≤ p.high then
      let value := p.value * 64 + (b.toNat - 0x80)
      if p.count ≤ 1 then some (Char.ofNat value) :: units none bytes
      else units (some ⟨p.count - 1, 0x80, 0xBF, value⟩) bytes
    else
      none ::
        match lead b with
        | .single c => some c :: units none bytes
        | .opens q => units (some q) bytes
        | .misfit => none :: units none bytes

/-- The character that stands for bytes that form none. -/
def replacement : Char := '\uFFFD'

/-- The text of any bytes, with one replacement character per maximal part that forms no character. -/
def decodeLossy (bytes : List UInt8) : Text := (units none bytes).map (·.getD replacement)

/-- The text of bytes that are UTF-8 throughout. -/
def decode? (bytes : List UInt8) : Option Text := (units none bytes).mapM id

def encodeChar (c : Char) : List UInt8 :=
  let n := c.toNat
  if n < 0x80 then [UInt8.ofNat n]
  else if n < 0x800 then [UInt8.ofNat (0xC0 + n / 64), UInt8.ofNat (0x80 + n % 64)]
  else if n < 0x10000 then
    [UInt8.ofNat (0xE0 + n / 4096), UInt8.ofNat (0x80 + n / 64 % 64), UInt8.ofNat (0x80 + n % 64)]
  else
    [UInt8.ofNat (0xF0 + n / 262144), UInt8.ofNat (0x80 + n / 4096 % 64),
      UInt8.ofNat (0x80 + n / 64 % 64), UInt8.ofNat (0x80 + n % 64)]

def encode (s : Text) : List UInt8 := s.flatMap encodeChar

end Utf8

end SuppressionAudit

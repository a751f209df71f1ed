import SuppressionAudit.Report.Literal.Token

/-!
# Escapes in quoted texts

A backslash in a quoted text may begin an escape that names a character by its code point in
hexadecimal digits, or by its name in braces. A fault is told with its place: every character that is
not ASCII counts as the escape of ten characters that would stand for it. Main statement: a text without
a backslash has no fault.
-/

namespace SuppressionAudit

namespace Literal

namespace Escape

def longEscapeSize : Nat := 10

def backslashSize : Nat := 6

/-- The places of a character. -/
def sizeOf (c : Char) : Nat := if c.toNat < 0x80 then 1 else longEscapeSize

/-- The places of a text; a backslash in front of a character that is not ASCII, or at the end, is
written as an escape. -/
def size : Text → Nat
  | [] => 0
  | '\\' :: c :: s =>
    (if c.toNat < 0x80 then 1 else backslashSize) + sizeOf c + size s
  | ['\\'] => backslashSize
  | c :: s => sizeOf c + size s

def lastCodePoint : Nat := 0x10FFFF

/-- The fault of an escape at a place, with a number of hexadecimal digits at the front of a text. -/
def hexadecimalFault? (reason : EscapeFault) (place count : Nat) (s : Text) : Option Fault :=
  let digits := (s.take count).takeWhile Numeral.isHexadecimal
  if digits.length < count then some (.escape reason place (place + 1 + digits.length))
  else if lastCodePoint < Numeral.value 16 digits then
    some (.escape .beyondUnicode place (place + 1 + count))
  else none

/-- The fault of an escape at a place that names a character, where a text follows the letter; some
texts are names of characters. -/
def nameFault? (isName : Text → Bool) (place : Nat) : Text → Option Fault
  | '\x7B' :: s =>
    let name := s.takeWhile (· != '\x7D')
    if name.length = s.length then some (.escape .nameMissing place (place + 2 + size s))
    else if name.isEmpty then some (.escape .nameMissing place (place + 2))
    else if isName name then none
    else some (.escape .nameUnknown place (place + 3 + size name))
  | _ => some (.escape .nameMissing place (place + 1))

/-- The fault of an escape at a place by its letter, where a text follows. -/
def faultAt? (isName : Text → Bool) (place : Nat) (letter : Char) (s : Text) : Option Fault :=
  match letter with
  | 'x' => hexadecimalFault? .shortHexadecimal place 2 s
  | 'u' => hexadecimalFault? .shortUnicode place 4 s
  | 'U' => hexadecimalFault? .shortLongUnicode place 8 s
  | 'N' => nameFault? isName place s
  | _ => none

/-- The first fault in a text from a place on. -/
def faultFrom? (isName : Text → Bool) (place : Nat) : Text → Option Fault
  | [] => none
  | '\\' :: c :: s =>
    (faultAt? isName place c s).or (faultFrom? isName (place + size ['\\', c]) s)
  | c :: s => faultFrom? isName (place + sizeOf c) s

def fault? (isName : Text → Bool) (s : Text) : Option Fault := faultFrom? isName 0 s

/-- The first fault in the escapes of bytes from a place on: of those that name a character, only the
shortest counts. -/
def byteFaultFrom? (place : Nat) : Text → Option Fault
  | [] => none
  | '\\' :: c :: s =>
    if c = 'x' ∧ ((s.take 2).takeWhile Numeral.isHexadecimal).length < 2 then
      some (.byteEscape place)
    else byteFaultFrom? (place + 2) s
  | _ :: s => byteFaultFrom? (place + 1) s

def byteFault? (s : Text) : Option Fault := byteFaultFrom? 0 s

/-! ### Texts without escapes -/

theorem faultFrom?_eq_none {isName : Text → Bool} {s : Text} (h : '\\' ∉ s) (place : Nat) :
    faultFrom? isName place s = none := by
  induction s generalizing place with
  | nil => rfl
  | cons c s ih =>
    have hc : c ≠ '\\' := fun e => h (by simp [e])
    have hs : '\\' ∉ s := fun hs => h (List.mem_cons_of_mem c hs)
    unfold faultFrom?
    split
    · rfl
    · exact absurd (List.cons.inj ‹_›).1 hc
    · cases ‹c :: s = _›
      exact ih hs _

theorem fault?_eq_none {isName : Text → Bool} {s : Text} (h : '\\' ∉ s) : fault? isName s = none :=
  faultFrom?_eq_none h 0

end Escape

end Literal

end SuppressionAudit

import SuppressionAudit.Report.Literal.Fault
import SuppressionAudit.Text.Letter

/-!
# Numerals

A number is written in decimal, hexadecimal, octal or binary digits, with single underscores between
them. A decimal number may have a fraction, an exponent and an imaginary unit. No letter may follow a
number, a few whole words apart. Main definition: the number at the front of a text.
-/

namespace SuppressionAudit

namespace Literal

/-- A number, as far as its kind and size count. -/
inductive Numeral where
  | integer (n : Nat)
  | real
  | imaginary
deriving DecidableEq, Repr

namespace Numeral

/-- A numeral with what follows it. -/
abbrev Reading := Except Fault (Numeral × Text)

def isDecimal (c : Char) : Bool := '0' ≤ c && c ≤ '9'

def isHexadecimal (c : Char) : Bool :=
  isDecimal c || ('a' ≤ c && c ≤ 'f') || ('A' ≤ c && c ≤ 'F')

def isOctal (c : Char) : Bool := '0' ≤ c && c ≤ '7'

def isBinary (c : Char) : Bool := c == '0' || c == '1'

/-- The value of a digit up to sixteen. -/
def digitValue (c : Char) : Nat :=
  if isDecimal c then c.toNat - '0'.toNat else c.toLower.toNat - 'a'.toNat + 10

/-- The value of digits in a system; underscores do not count. -/
def value (base : Nat) (digits : Text) : Nat :=
  (digits.filter (· != '_')).foldl (fun n c => base * n + digitValue c) 0

/-- Whether a character might belong to a name, before its class is looked at. -/
def isNameLike (c : Char) : Bool := c.isAlphanum || c == '_' || 0x80 ≤ c.toNat

/-- The fault of a numeral of a kind, where something else stands instead of a digit. -/
def missingDigit (kind : String) : Option Char → Fault
  | some c => if isDecimal c then .badDigit c kind else .badNumeral kind
  | none => .badNumeral kind

/-- What follows digits of a kind of numeral, with single underscores between them. -/
def skipDigits (isDigit : Char → Bool) (kind : String) : Text → Except Fault Text
  | [] => .ok []
  | ['_'] => .error (missingDigit kind none)
  | '_' :: c :: s =>
    if isDigit c then skipDigits isDigit kind s else .error (missingDigit kind (some c))
  | c :: s => if isDigit c then skipDigits isDigit kind s else .ok (c :: s)

/-- The digits at the front of a text, with the underscores between them. -/
def written (isDigit : Char → Bool) (s : Text) : Text := s.takeWhile fun c => isDigit c || c == '_'

/-- The whole words that may follow a number without a blank. -/
def wordsAfter : List Text :=
  ["and".toList, "else".toList, "for".toList, "or".toList, "not".toList]

/-- The words that may follow a number even where they begin a longer word. -/
def beginningsAfter : List Text := ["if".toList, "in".toList, "is".toList]

def mayFollow (s : Text) : Bool :=
  !s.head?.any isNameLike || beginningsAfter.any (Text.startsWith s)
    || wordsAfter.contains (s.takeWhile isNameLike)

/-- A numeral of a kind, if what follows it may do so. -/
def finish (kind : String) (numeral : Numeral) (s : Text) : Reading :=
  if mayFollow s then .ok (numeral, s) else .error (.badNumeral kind)

/-- The end of a decimal number, where an imaginary unit may stand. -/
def readUnit (numeral : Numeral) (s : Text) : Reading :=
  match s with
  | 'j' :: rest | 'J' :: rest => finish "imaginary" .imaginary rest
  | _ => finish "decimal" numeral s

def readDigits (s : Text) : Except Fault Text :=
  if s.head?.any isDecimal then skipDigits isDecimal "decimal" s
  else .error (.badNumeral "decimal")

def readExponent (numeral : Numeral) (s : Text) : Reading :=
  match s with
  | e :: rest =>
    if e = 'e' ∨ e = 'E' then
      match rest with
      | c :: digits =>
        if c = '+' ∨ c = '-' then (readDigits digits).bind (readUnit .real)
        else if isDecimal c then (readDigits rest).bind (readUnit .real)
        else finish "decimal" numeral s
      | [] => finish "decimal" numeral s
    else readUnit numeral s
  | [] => readUnit numeral s

def readFraction (numeral : Numeral) (s : Text) : Reading :=
  match s with
  | '.' :: rest =>
    if rest.head?.any isDecimal then (readDigits rest).bind (readExponent .real)
    else readExponent .real rest
  | _ => readExponent numeral s

/-- A number in another system, after the letter that names the system. -/
def readOther (kind : String) (base : Nat) (isDigit : Char → Bool) (s : Text) : Reading :=
  let digits := match s with
    | '_' :: rest => rest
    | _ => s
  match digits with
  | c :: _ =>
    if isDigit c then
      match skipDigits isDigit kind digits with
      | .error fault => .error fault
      | .ok rest =>
        match rest.head? with
        | some d =>
          if isDecimal d then .error (.badDigit d kind)
          else
            finish kind (.integer (value base (written isDigit digits))) rest
        | none => .ok (.integer (value base digits), [])
    else .error (missingDigit kind (some c))
  | [] => .error (missingDigit kind none)

/-- A decimal number. One with other digits than zeros begins with none, unless it is no integer. -/
def readDecimal (s : Text) : Reading :=
  match readDigits s with
  | .error fault => .error fault
  | .ok rest =>
    let digits := written isDecimal s
    let goesOn := rest.head?.any fun c => ".eEjJ".toList.contains c
    if s.head? = some '0' && digits.any (fun c => '1' ≤ c && c ≤ '9') && !goesOn then
      .error .leadingZeros
    else readFraction (.integer (value 10 digits)) rest

def read (s : Text) : Reading :=
  match s with
  | '0' :: x :: rest =>
    if x = 'x' ∨ x = 'X' then readOther "hexadecimal" 16 isHexadecimal rest
    else if x = 'o' ∨ x = 'O' then readOther "octal" 8 isOctal rest
    else if x = 'b' ∨ x = 'B' then readOther "binary" 2 isBinary rest
    else readDecimal s
  | _ => readDecimal s

/-! ### What is read -/

theorem skipDigits_of_not_digit {isDigit : Char → Bool} {kind : String} {c : Char} {s : Text}
    (hDigit : isDigit c = false) (hMark : c ≠ '_') :
    skipDigits isDigit kind (c :: s) = .ok (c :: s) := by
  cases s <;> simp_all [skipDigits]

theorem finish_eq_ok {kind : String} {numeral : Numeral} {s : Text} {r : Numeral × Text}
    (h : finish kind numeral s = .ok r) : r = (numeral, s) := by
  unfold finish at h
  split at h <;> simp_all

end Numeral

end Literal

end SuppressionAudit

import SuppressionAudit.Json

/-!
# Reading JSON

A document is one value with blanks around it. The reader is strict: no trailing commas, comments
or leading zeros, no control character inside a string, and only the four JSON blanks between
tokens, so that a byte order mark in front is refused too. Two escapes that form a surrogate pair
are one character. How many lists and objects may stand inside each other depends on the stack that
the reader has left, and is given to it. An integer may have any number of digits: that an interpreter
can be told to refuse long ones is left aside.
-/

namespace SuppressionAudit

namespace Json

/-! ### Tokens -/

def isJsonBlank (c : Char) : Bool := c == ' ' || c == '\t' || c == '\n' || c == '\r'

/-- What follows the blanks in front. -/
def skipBlanks (s : Text) : Text := s.dropWhile isJsonBlank

def hexValue? (c : Char) : Option Nat :=
  if '0' ≤ c ∧ c ≤ '9' then some (c.toNat - 48)
  else if 'a' ≤ c ∧ c ≤ 'f' then some (c.toNat - 87)
  else if 'A' ≤ c ∧ c ≤ 'F' then some (c.toNat - 55)
  else none

/-- The number that four hexadecimal digits write. -/
def hexUnit? (a b c d : Char) : Option Nat := do
  let a ← hexValue? a
  let b ← hexValue? b
  let c ← hexValue? c
  let d ← hexValue? d
  return ((a * 16 + b) * 16 + c) * 16 + d

def shortEscape? (c : Char) : Option Char :=
  if c = '"' then some '"'
  else if c = '\\' then some '\\'
  else if c = '/' then some '/'
  else if c = 'b' then some '\x08'
  else if c = 'f' then some '\x0C'
  else if c = 'n' then some '\n'
  else if c = 'r' then some '\r'
  else if c = 't' then some '\t'
  else none

/-- Puts a code unit before the units of a string that was read. -/
def consUnit (n : Nat) (r : Option (List Nat × Text)) : Option (List Nat × Text) :=
  r.map fun p => (n :: p.1, p.2)

/-- The code units of a string whose opening quote has been read, and what follows its closing one. -/
def readUnits : Text → Option (List Nat × Text)
  | [] => none
  | c :: s =>
    if c = '"' then some ([], s)
    else if c = '\\' then
      match s with
      | [] => none
      | e :: s =>
        if e = 'u' then
          match s with
          | h₁ :: h₂ :: h₃ :: h₄ :: s =>
            match hexUnit? h₁ h₂ h₃ h₄ with
            | some n => consUnit n (readUnits s)
            | none => none
          | _ => none
        else
          match shortEscape? e with
          | some x => consUnit x.toNat (readUnits s)
          | none => none
    else if c.toNat < 0x20 then none
    else consUnit c.toNat (readUnits s)

def isHighSurrogate (n : Nat) : Bool := 0xD800 ≤ n && n < 0xDC00

def isLowSurrogate (n : Nat) : Bool := 0xDC00 ≤ n && n < 0xE000

/-- The character of a code unit that is no part of a pair. A surrogate is no character: the
replacement character stands for each of them, so that names which differ in nothing else are read as
the same name. -/
def unitChar (n : Nat) : Char :=
  if isHighSurrogate n || isLowSurrogate n then '\uFFFD' else Char.ofNat n

def textOfUnits : List Nat → Text
  | [] => []
  | n :: units =>
    match units with
    | m :: rest =>
      if isHighSurrogate n && isLowSurrogate m then
        Char.ofNat (0x10000 + (n - 0xD800) * 0x400 + (m - 0xDC00)) :: textOfUnits rest
      else unitChar n :: textOfUnits (m :: rest)
    | [] => [unitChar n]

/-- A string whose opening quote has been read, and what follows its closing one. -/
def readString (s : Text) : Option (Text × Text) :=
  (readUnits s).map fun p => (textOfUnits p.1, p.2)

/-- The characters that numbers are written with. -/
def isNumberChar (c : Char) : Bool :=
  isDigit c || c == '-' || c == '+' || c == '.' || c == 'e' || c == 'E'

def natOfDigits (s : Text) : Nat := s.foldl (fun n c => n * 10 + (c.toNat - 48)) 0

def intOfLiteral : Text → Int
  | '-' :: s => -(natOfDigits s : Int)
  | s => (natOfDigits s : Int)

def numberOf? (literal : Text) : Option Json :=
  if isWholeLiteral literal then some (.int (intOfLiteral literal))
  else if h : isRealLiteral literal = true then some (.real ⟨literal, Or.inl h⟩)
  else none

def wordValues : List (Text × Json) :=
  [("null".toList, .null), ("true".toList, .bool true), ("false".toList, .bool false),
    ("NaN".toList, .real ⟨"NaN".toList, Or.inr (by decide)⟩),
    ("Infinity".toList, .real ⟨"Infinity".toList, Or.inr (by decide)⟩),
    ("-Infinity".toList, .real ⟨"-Infinity".toList, Or.inr (by decide)⟩)]

/-- A word in front of a text, and what follows it. -/
def readWord (s : Text) : Option (Json × Text) :=
  wordValues.findSome? fun p => (Text.dropLiteral? p.1 s).map fun rest => (p.2, rest)

/-- A word or a number in front of a text, and what follows it. -/
def readAtom (s : Text) : Option (Json × Text) :=
  match readWord s with
  | some r => some r
  | none => (numberOf? (s.takeWhile isNumberChar)).map fun v => (v, s.dropWhile isNumberChar)

/-! ### Values -/

/-- Why a document has no value: it is not written as one, or its lists and objects are too deep inside
each other. -/
inductive ReadFault where
  | malformed
  | tooDeep
deriving DecidableEq, Repr

/-- What is read in front of a text, and what follows it. -/
abbrev Reading (α : Type) := Except ReadFault (α × Text)

/-- A reading that can only fail by what is written. -/
def ofOption {α : Type} : Option (α × Text) → Reading α
  | some r => .ok r
  | none => .error .malformed

/-- How many lists and objects may be inside each other when no other number is given. -/
def nestingLimit : Nat := 985

mutual

/-- A value in front of a text without leading blanks, and what follows it; some more lists and objects
may be inside each other. -/
def readValue : Nat → Nat → Text → Reading Json
  | 0, _, _ => .error .malformed
  | fuel + 1, deeper, s =>
    match s, deeper with
    | '"' :: s, _ => ofOption ((readString s).map fun p => (.str p.1, p.2))
    | '[' :: _, 0 => .error .tooDeep
    | '[' :: s, deeper + 1 =>
      match skipBlanks s with
      | ']' :: rest => .ok (.arr [], rest)
      | s => (readItems fuel deeper s).map fun p => (.arr p.1, p.2)
    | '\x7b' :: _, 0 => .error .tooDeep
    | '\x7b' :: s, deeper + 1 =>
      match skipBlanks s with
      | '\x7d' :: rest => .ok (.obj [], rest)
      | s => (readFields fuel deeper s).map fun p => (.obj p.1, p.2)
    | s, _ => ofOption (readAtom s)

/-- The items of an array from its next item on, and what follows its closing bracket. -/
def readItems : Nat → Nat → Text → Reading (List Json)
  | 0, _, _ => .error .malformed
  | fuel + 1, deeper, s =>
    match readValue fuel deeper s with
    | .error fault => .error fault
    | .ok (v, s) =>
      match skipBlanks s with
      | ']' :: rest => .ok ([v], rest)
      | ',' :: s => (readItems fuel deeper (skipBlanks s)).map fun p => (v :: p.1, p.2)
      | _ => .error .malformed

/-- The fields of an object from its next field on, and what follows its closing brace. -/
def readFields : Nat → Nat → Text → Reading (List (Text × Json))
  | 0, _, _ => .error .malformed
  | fuel + 1, deeper, s =>
    match s with
    | '"' :: s =>
      match readString s with
      | none => .error .malformed
      | some (key, s) =>
        match skipBlanks s with
        | ':' :: s =>
          match readValue fuel deeper (skipBlanks s) with
          | .error fault => .error fault
          | .ok (v, s) =>
            match skipBlanks s with
            | '\x7d' :: rest => .ok ([(key, v)], rest)
            | ',' :: s =>
              (readFields fuel deeper (skipBlanks s)).map fun p => ((key, v) :: p.1, p.2)
            | _ => .error .malformed
        | _ => .error .malformed
    | _ => .error .malformed

end

/-- The value of a document with at most `limit` lists and objects inside each other; no step reads a
value without reading a character of it first. -/
def read (s : Text) (limit : Nat := nestingLimit) : Except ReadFault Json :=
  match readValue (2 * s.length + 2) limit (skipBlanks s) with
  | .ok (v, rest) => if (skipBlanks rest).isEmpty then .ok v else .error .malformed
  | .error fault => .error fault

/-- The value of a document that has one. -/
def read? (s : Text) : Option Json := (read s).toOption

end Json

end SuppressionAudit

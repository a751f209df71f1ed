import SuppressionAudit.Text.LetterTable

/-!
# Names and words

A name begins with a letter or an underscore, and goes on with those, digits, accents and connecting
marks. A word holds letters, numerals and underscores. Some letters differ from a small Latin one in
form only: raised or lowered ones, and those of the mathematical alphabets. Main statement: what begins
a name may go on with it.
-/

namespace SuppressionAudit

namespace Text

def isLetter (c : Char) : Bool :=
  if c.toNat < 0x80 then c.isAlpha else inRanges c.toNat letterRanges

def beginsName (c : Char) : Bool := c == '_' || isLetter c

def continuesName (c : Char) : Bool :=
  beginsName c || (if c.toNat < 0x80 then c.isDigit else inRanges c.toNat innerRanges)

/-- The letters that stand in names only, and are no part of a word: two Mongolian marks and two
mathematical symbols. -/
def nameLetters : List Char := ['\u1885', '\u1886', '\u2118', '\u212E']

def isWord (c : Char) : Bool :=
  if c.toNat < 0x80 then c == '_' || c.isAlphanum
  else isLetter c && !nameLetters.contains c || inRanges c.toNat numeralRanges

/-! ### Forms of letters -/

/-- The places of the small letters `a` in the alphabets whose small letters follow each other. -/
def alphabetStarts : List Nat :=
  [0xFF41, 0x1D41A, 0x1D44E, 0x1D482, 0x1D4B6, 0x1D4EA, 0x1D51E, 0x1D552, 0x1D586, 0x1D5BA, 0x1D5EE,
    0x1D622, 0x1D656, 0x1D68A]

/-- The other forms of small letters. -/
def singleForms : List (Nat × Char) :=
  [(0xAA, 'a'), (0x1D43, 'a'), (0x2090, 'a'), (0x1D47, 'b'), (0x1D9C, 'c'), (0x217D, 'c'),
    (0x1D48, 'd'), (0x2146, 'd'), (0x217E, 'd'), (0x1D49, 'e'), (0x2091, 'e'), (0x212F, 'e'),
    (0x2147, 'e'), (0x1DA0, 'f'), (0x1D4D, 'g'), (0x210A, 'g'), (0x2B0, 'h'), (0x2095, 'h'),
    (0x210E, 'h'), (0x1D62, 'i'), (0x2071, 'i'), (0x2139, 'i'), (0x2148, 'i'), (0x2170, 'i'),
    (0x2B2, 'j'), (0x2149, 'j'), (0x2C7C, 'j'), (0x1D4F, 'k'), (0x2096, 'k'), (0x2E1, 'l'),
    (0x2097, 'l'), (0x2113, 'l'), (0x217C, 'l'), (0x1D50, 'm'), (0x2098, 'm'), (0x217F, 'm'),
    (0x207F, 'n'), (0x2099, 'n'), (0xBA, 'o'), (0x1D52, 'o'), (0x2092, 'o'), (0x2134, 'o'),
    (0x1D56, 'p'), (0x209A, 'p'), (0x107A5, 'q'), (0x2B3, 'r'), (0x1D63, 'r'), (0x17F, 's'),
    (0x2E2, 's'), (0x209B, 's'), (0x1D57, 't'), (0x209C, 't'), (0x1D58, 'u'), (0x1D64, 'u'),
    (0x1D5B, 'v'), (0x1D65, 'v'), (0x2174, 'v'), (0x2B7, 'w'), (0x2E3, 'x'), (0x2093, 'x'),
    (0x2179, 'x'), (0x2B8, 'y'), (0x1DBB, 'z')]

/-- The small Latin letter that a character is a form of, or else the character itself. -/
def plainForm (c : Char) : Char :=
  match alphabetStarts.find? fun a => a ≤ c.toNat && c.toNat < a + 26 with
  | some a => Char.ofNat (97 + (c.toNat - a))
  | none => (singleForms.lookup c.toNat).getD c

/-! ### Classes -/

theorem continuesName_of_beginsName {c : Char} (h : beginsName c = true) :
    continuesName c = true := by
  simp [continuesName, h]

theorem isWord_underscore : isWord '_' = true := rfl

end Text

end SuppressionAudit

import SuppressionAudit.Text.Blank
import SuppressionAudit.Text.CharacterNameTable

/-!
# Names of characters

Every character has a name, and some have several. The names of Hangul syllables are built from their
sounds, those of ideographs from their code points, and all others are in a table, where capital and
small letters are the same. Main statement: a syllable is named by an initial sound, a vowel and a final
sound, each as long as possible.
-/

namespace SuppressionAudit

namespace CharacterName

/-! ### Syllables -/

/-- The initial sounds of Hangul syllables; one is silent. -/
def initialSounds : List String :=
  ["G", "GG", "N", "D", "DD", "R", "M", "B", "BB", "S", "SS", "", "J", "JJ", "C", "K", "T", "P", "H"]

def vowels : List String :=
  ["A", "AE", "YA", "YAE", "EO", "E", "YEO", "YE", "O", "WA", "WAE", "OE", "YO", "U", "WEO", "WE",
    "WI", "YU", "EU", "YI", "I"]

/-- The final sounds of Hangul syllables; a syllable may have none. -/
def finalSounds : List String :=
  ["", "G", "GG", "GS", "N", "NJ", "NH", "D", "L", "LG", "LM", "LB", "LS", "LT", "LP", "LH", "M", "B",
    "BS", "S", "SS", "NG", "J", "C", "K", "T", "P", "H"]

/-- What follows the longest of some sounds at the front of a text. -/
def dropSound? (sounds : List String) (s : Text) : Option Text :=
  (sounds.foldl (fun best sound =>
    match Text.dropLiteral? sound.toList s with
    | some rest => if best.all fun b : Text => rest.length < b.length then some rest else best
    | none => best) none)

/-- Whether a text is an initial sound, a vowel and a final sound. -/
def isSyllable (s : Text) : Bool :=
  (((dropSound? initialSounds s).bind (dropSound? vowels)).bind (dropSound? finalSounds)) = some []

/-! ### Ideographs -/

/-- The ranges of the ideographs that all scripts share. -/
def unifiedRanges : List (Nat × Nat) :=
  [(0x3400, 0x4DBF), (0x4E00, 0x9FFF), (0x20000, 0x2A6DF), (0x2A700, 0x2B738), (0x2B740, 0x2B81D),
    (0x2B820, 0x2CEA1), (0x2CEB0, 0x2EBE0), (0x30000, 0x3134A)]

def compatibleRanges : List (Nat × Nat) :=
  [(0xF900, 0xFA6D), (0xFA70, 0xFAD9), (0x2F800, 0x2FA1D)]

/-- Whether a character is a capital hexadecimal digit. -/
def isDigit (c : Char) : Bool := c.isDigit || ('A' ≤ c && c ≤ 'F')

/-- The number that capital hexadecimal digits write. -/
def codePoint (s : Text) : Nat :=
  s.foldl (fun n c => 16 * n + (if c.isDigit then c.toNat - '0'.toNat else c.toNat - 'A'.toNat + 10)) 0

/-- Whether a text writes a code point of some ranges, in four or five digits. -/
def isCodePoint (ranges : List (Nat × Nat)) (s : Text) : Bool :=
  (s.length == 4 || s.length == 5) && s.all isDigit && Text.inRanges (codePoint s) ranges

/-! ### All names -/

/-- Reads the records of a table one after another, as long as a name is not found. The words of the name
before come first. -/
def isListedAfter (name : List Text) : List Text → List Text → Bool
  | _, [] => false
  | before, record :: records =>
    match Text.words record with
    | (mark :: first) :: rest =>
      let words := before.take (mark.toNat - 'a'.toNat) ++ first :: rest
      words == name || isListedAfter name words records
    | _ => isListedAfter name before records

def isListed (s : Text) : Bool :=
  isListedAfter (Text.splitOn ' ' s) [] (Text.splitOn ';' records.toList)

def isName (s : Text) : Bool :=
  match Text.dropLiteral? "HANGUL SYLLABLE ".toList s with
  | some sounds => isSyllable sounds
  | none =>
    match Text.dropLiteral? "CJK UNIFIED IDEOGRAPH-".toList s with
    | some digits => isCodePoint unifiedRanges digits
    | none =>
      let capital := s.map Char.toUpper
      match Text.dropLiteral? "CJK COMPATIBILITY IDEOGRAPH-".toList capital with
      | some digits => digits.head? != some '0' && isCodePoint compatibleRanges digits
      | none => isListed capital

theorem isName_syllable (s : Text) : isName ("HANGUL SYLLABLE ".toList ++ s) = isSyllable s := by
  simp only [isName, Text.dropLiteral?_append]

end CharacterName

end SuppressionAudit

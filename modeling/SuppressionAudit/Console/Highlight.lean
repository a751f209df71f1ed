import SuppressionAudit.Console.StyledText
import SuppressionAudit.Text.Digit
import SuppressionAudit.Text.Letter
import SuppressionAudit.Text.Shape

/-!
# Highlights

A console gives styles of its own to what it takes for a tag, an assignment, a bracket, an address, an
identifier, a call, a constant, an ellipsis, a number, a path, a quoted text or a link, before those
that the text brings. Main statement: highlights do not change the characters of a text.
-/

namespace SuppressionAudit

namespace Highlight

open Text Text.Shape

/-! ### Characters -/

def isDigit (c : Char) : Bool := '0' ≤ c && c ≤ '9'

def isHex (c : Char) : Bool := isDigit c || ('a' ≤ c && c ≤ 'f') || ('A' ≤ c && c ≤ 'F')

/-- Whether a character belongs to a word or is one of some others. -/
def isWordOr (others : String) (c : Char) : Bool := isWord c || others.toList.contains c

/-- Whether a character may stand in a link, after its scheme. -/
def inLink (c : Char) : Bool :=
  isDigit c || ('a' ≤ c && c ≤ 'z') || ('A' ≤ c && c ≤ 'Z')
    || "-$_+!\x60(),.?/;:&=%#~@".toList.contains c

/-! ### Edges -/

/-- Whether a neighbour belongs to a word. -/
def isWordAt (c : Option Char) : Bool := c.any isWord

/-- An end of a word. -/
def edge : Shape := .here fun before rest => isWordAt before != isWordAt rest.head?

/-- A place that is not after a character of a word. -/
def afterNoWord : Shape := .here fun before _ => !isWordAt before

/-- A place that is not after a backslash. -/
def afterNoSlash : Shape := .here fun before _ => before != some '\\'

/-! ### What is highlighted -/

def tag : Shape :=
  sequence [.marked (char '<'), .marked (.all (isWordOr "-.:|") 0 none),
    .here fun _ rest => rest.contains '>', .marked (.longest (fun _ => true) 0), .marked (char '>')]

def assignment : Shape :=
  sequence [.marked (.all isWord 1 (some 50)), char '=',
    optional (.marked (sequence [optional (char '"'), .all isWord 1 none, optional (char '"')]))]

def bracket : Shape := .marked (.one fun c => "[]\x7b\x7d()".toList.contains c)

/-- So many groups of accepted characters with a mark after each, and a last group; each has at least
and at most a number of characters. -/
def groups (accepts : Char → Bool) (n least most : Nat) (mark : Char) : Shape :=
  .both (.times n (some 0) (.both (.all accepts least (some most)) (char mark)))
    (.all accepts least (some most))

/-- Four numbers with points between them. -/
def address4 : Shape := .marked (groups isDigit 3 1 3 '.')

/-- Groups of hexadecimal digits, each but the last one with a colon or two after it. -/
def address6 : Shape :=
  .marked (.both (.times 1 (some 6) (sequence [.all isHex 1 (some 4), char ':', optional (char ':')]))
    (.all isHex 1 (some 4)))

/-- The identifier of a device with eight bytes. -/
def device8 : Shape :=
  .marked (oneOf [groups isHex 7 1 2 '-', groups isHex 7 1 2 ':', groups isHex 3 4 4 '.'])

/-- The identifier of a device with six bytes. -/
def device6 : Shape :=
  .marked (oneOf [groups isHex 5 1 2 '-', groups isHex 5 1 2 ':', groups isHex 2 4 4 '.'])

/-- A unique identifier. -/
def identifier : Shape :=
  .marked (sequence [.all isHex 8 (some 8), char '-', groups isHex 2 4 4 '-', char '-',
    .all isHex 12 (some 12)])

/-- The name of what is called. -/
def call : Shape := .both (.marked (.all (isWordOr ".") 0 none)) (char '(')

/-- A constant, which is a word. -/
def constant (name : String) : Shape := sequence [edge, .marked (exactly name), edge]

def ellipsis : Shape := .marked (exactly "...")

def sign : Shape := .one fun c => c == '-' || c == '+'

/-- Whether a character is a digit of any script. -/
def isAnyDigit (c : Char) : Bool := (digitValue? c).isSome

/-- A decimal number without a sign, with perhaps an exponent in the given digits. -/
def decimal (exponent : Shape) : Shape :=
  sequence [.longest isDigit 1, optional (char '.'), .longest isDigit 0,
    optional (sequence [char 'e', optional sign, exponent])]

/-- A number with an imaginary part. -/
def complex : Shape :=
  .marked (sequence [afterNoWord, optional (char '-'), decimal (.shortest isAnyDigit 1),
    optional (.both sign (decimal (.longest isAnyDigit 1))), char 'j'])

def number : Shape :=
  .marked (.either (sequence [afterNoWord, optional (char '-'), decimal (.shortest isAnyDigit 1), edge])
    (.both (exactly "0x") (.all isHex 0 none)))

/-- The slash that comes next, and not right after a word. -/
def openingSlash : Shape := .here fun before rest => !isWordAt before && rest.head? == some '/'

def path : Shape :=
  let inName := isWordOr "-._+"
  .both
    (.marked (sequence [openingSlash, .times 0 none (.both (char '/') (.all inName 1 none)), char '/']))
    (.marked (.all inName 0 none))

/-- A text between quotes, as short as can be, on one line. -/
def inQuotes (quotes : String) : Shape :=
  sequence [optional (char 'b'), exactly quotes, .shortest (fun c => c != '\n') 0, afterNoSlash,
    exactly quotes]

def quoted : Shape :=
  sequence [afterNoWord, afterNoSlash,
    .marked (oneOf [inQuotes "'''", inQuotes "'", inQuotes "\"\"\"", inQuotes "\""])]

def link : Shape :=
  .marked (sequence [oneOf [exactly "file", exactly "https", exactly "http", exactly "ws", exactly "wss"],
    exactly "://", .all inLink 0 none])

/-- The shapes that are looked for, each in the whole text. -/
def shapes : List Shape :=
  [tag, assignment, bracket,
    oneOf [address4, address6, device8, device6, identifier, call, constant "True", constant "False",
      constant "None", ellipsis, complex, number, path, quoted, link]]

end Highlight

namespace StyledText

def highlighted (t : StyledText) : StyledText :=
  let marks := Highlight.shapes.flatMap fun shape => shape.marks t.text
  { t with spans := (marks.map fun mark => ⟨mark.1, mark.2, none⟩) ++ t.spans }

theorem text_highlighted (t : StyledText) : t.highlighted.text = t.text := rfl

end StyledText

end SuppressionAudit

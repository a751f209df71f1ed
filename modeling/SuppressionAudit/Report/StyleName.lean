import SuppressionAudit.Report.ColorName
import SuppressionAudit.Text.Blank
import SuppressionAudit.Text.Lowercase

/-!
# Style names

The name of a markup tag is compared in a normal form. A name made of style words, that is
attributes, negated attributes, colours and a link, is written with its attributes in a fixed order,
then the colour, the background and the link. Any other name is trimmed and put in lower case, unless
it has a malformed colour before the word that no style has.
-/

namespace SuppressionAudit

namespace StyleName

def attributes : List String :=
  ["bold", "dim", "italic", "underline", "blink", "blink2", "reverse", "conceal", "strike",
    "underline2", "frame", "encircle", "overline"]

def shortWords : List (String × String) :=
  [("b", "bold"), ("d", "dim"), ("i", "italic"), ("u", "underline"), ("r", "reverse"),
    ("c", "conceal"), ("s", "strike"), ("uu", "underline2"), ("o", "overline")]

def attribute? (word : Text) : Option String :=
  let word := String.ofList word
  if attributes.contains word then some word
  else (shortWords.find? fun p => p.1 == word).map Prod.snd

/-- A style as its words build it up. -/
structure Style where
  attributes : List (String × Bool)
  color : Option Text
  background : Option Text
  link : Option Text

def Style.plain : Style := ⟨[], none, none, none⟩

inductive Fault where
  | unknownWord
  | malformedColor
deriving DecidableEq, Repr

def readColor (word : Text) : Except Fault Text :=
  match ColorName.read word with
  | .color => .ok word
  | .unknown => .error .unknownWord
  | .malformed => .error .malformedColor

/-- The style that words build on another one. -/
def readWords (style : Style) : List Text → Except Fault Style
  | [] => .ok style
  | word :: words =>
    let lower := Text.lowercase word
    if lower = "on".toList then
      match words with
      | color :: words =>
        match readColor (Text.lowercase color) with
        | .ok color => readWords { style with background := some color } words
        | .error e => .error e
      | [] => .error .unknownWord
    else if lower = "not".toList then
      match words with
      | word :: words =>
        match attribute? word with
        | some a => readWords { style with attributes := (a, false) :: style.attributes } words
        | none => .error .unknownWord
      | [] => .error .unknownWord
    else if lower = "link".toList then
      match words with
      | target :: words => readWords { style with link := some target } words
      | [] => .error .unknownWord
    else
      match attribute? lower with
      | some a => readWords { style with attributes := (a, true) :: style.attributes } words
      | none =>
        match readColor lower with
        | .ok color => readWords { style with color := some color } words
        | .error e => .error e

def read (s : Text) : Except Fault Style :=
  if Text.trim s = "none".toList then .ok Style.plain else readWords Style.plain (Text.words s)

def wordsOf (style : Style) : List Text :=
  (attributes.flatMap fun a =>
      match style.attributes.find? fun p => p.1 == a with
      | some (_, true) => [a.toList]
      | some (_, false) => ["not".toList, a.toList]
      | none => [])
    ++ style.color.toList
    ++ (match style.background with
      | some color => ["on".toList, color]
      | none => [])
    ++ (match style.link with
      | some target => ["link".toList, target]
      | none => [])

/-- The normal form of a tag's name; none if a colour in it is malformed. -/
def normalize? (name : Text) : Option Text :=
  match read name with
  | .ok style =>
    match wordsOf style with
    | [] => some "none".toList
    | words => some (Text.joinWith [' '] words)
  | .error .unknownWord => some (Text.lowercase (Text.trim name))
  | .error .malformedColor => none

end StyleName

end SuppressionAudit

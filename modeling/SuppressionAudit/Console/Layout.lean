import SuppressionAudit.Console.Line
import SuppressionAudit.Console.StyledText

/-!
# Layout of styled text

Styled text is laid out in lines of a width: it is broken at newlines, its tabs are expanded, each
line is broken at words, blanks that stand out at the end are dropped, and what is still too wide is
cut. Lines can be aligned to the left or to the right; otherwise they are as wide as they come.
-/

namespace SuppressionAudit

open Text (CutFault Overflow)

/-- How a line is aligned. -/
inductive Alignment where
  | none
  | left
  | right
deriving DecidableEq, Repr

namespace StyledText

/-- A line without the blanks at its end that stand beyond `limit` characters. -/
def dropExcess (t : StyledText) (limit : Nat) : StyledText :=
  let blanks := t.text.length - (Text.trimEnd t.text).length
  t.withText (t.text.take (t.text.length - min blanks (t.text.length - limit)))

/-- A line cut to a number of cells, in the way that its overflow asks for. -/
def truncate (overflow : Overflow) (limit : Nat) (t : StyledText) : Except CutFault StyledText :=
  if Text.width t.text ≤ limit then .ok t
  else
    match overflow with
    | .fold => (Text.fitCells limit t.text).map t.withText
    | .ellipsis => (Text.fitCells (limit - 1) t.text).map fun s => t.withText (s ++ ['…'])

def align (overflow : Overflow) (limit : Nat) (alignment : Alignment) (t : StyledText) :
    Except CutFault StyledText :=
  match alignment with
  | .none => .ok t
  | .left =>
    if Text.width t.text < limit then .ok { t with text := Text.padRight limit t.text }
    else t.truncate overflow limit
  | .right =>
    ((t.withText (Text.trimEnd t.text)).truncate overflow limit).map fun t =>
      let count := limit - Text.width t.text
      { t with text := Text.spaces count ++ t.text, spans := t.spans.map (Span.shifted count) }

/-- The texts that a function makes of texts, unless it fails on one of them. -/
def mapAll (f : StyledText → Except CutFault StyledText) :
    List StyledText → Except CutFault (List StyledText)
  | [] => .ok []
  | t :: rest =>
    match f t with
    | .error e => .error e
    | .ok t => (mapAll f rest).map (t :: ·)

def wrapLine (overflow : Overflow) (limit : Nat) (alignment : Alignment) (t : StyledText) :
    Except CutFault (List StyledText) :=
  let t := t.expandTabs
  let broken := (t.cutAt (Text.breakOffsets overflow limit t.text)).map fun t => t.dropExcess limit
  match mapAll (align overflow limit alignment) broken with
  | .error e => .error e
  | .ok aligned => mapAll (truncate overflow limit) aligned

def wrapLines (overflow : Overflow) (limit : Nat) (alignment : Alignment) :
    List StyledText → Except CutFault (List StyledText)
  | [] => .ok []
  | t :: rest =>
    match t.wrapLine overflow limit alignment with
    | .error e => .error e
    | .ok lines => (wrapLines overflow limit alignment rest).map (lines ++ ·)

def wrap (overflow : Overflow) (limit : Nat) (alignment : Alignment) (t : StyledText) :
    Except CutFault (List StyledText) := wrapLines overflow limit alignment t.lines

end StyledText

end SuppressionAudit

import SuppressionAudit.StableSort
import SuppressionAudit.Text.Wrap

/-!
# Styled text

A text with spans, which give styles to its characters, and perhaps a style for all of it. Spans may
overlap, and they may be empty. A part of a text keeps what lies in it of each span that is not empty
there; a text that is only made shorter keeps every span that begins before its end. Main statement:
the pieces that a text is printed in are, one after the other, the text.
-/

namespace SuppressionAudit

/-- A style on the characters from an offset up to another one; no style where an action is called, and
where the console chose the style itself. -/
structure Span where
  start : Nat
  stop : Nat
  style : Option Text
deriving DecidableEq, Repr

namespace Span

/-- What lies of a span between two offsets, counted from the first of them. -/
def within? (first last : Nat) (span : Span) : Option Span :=
  let start := span.start - first
  let stop := min (span.stop - first) (last - first)
  if start < stop then some ⟨start, stop, span.style⟩ else none

def cropped? (length : Nat) (span : Span) : Option Span :=
  if span.start < length then some { span with stop := min length span.stop } else none

/-- A span of what follows a number of characters. -/
def shifted (count : Nat) (span : Span) : Span :=
  { span with start := span.start + count, stop := span.stop + count }

end Span

/-- A text with styles on its characters, and perhaps one for the whole text. -/
structure StyledText where
  text : Text
  spans : List Span
  style : Option Text
deriving DecidableEq, Repr

namespace StyledText

def plain (s : Text) : StyledText := ⟨s, [], none⟩

def inStyle (style s : Text) : StyledText := ⟨s, [], some style⟩

/-- The text between two offsets. -/
def slice (t : StyledText) (first last : Nat) : StyledText :=
  { t with
    text := (t.text.drop first).take (last - first)
    spans := t.spans.filterMap (Span.within? first last) }

def slices (t : StyledText) : List Nat → List StyledText
  | first :: last :: rest => t.slice first last :: slices t (last :: rest)
  | _ => []

/-- A text cut at offsets; without any it stays as it is, with its empty spans. -/
def cutAt (t : StyledText) (offsets : List Nat) : List StyledText :=
  if offsets.isEmpty then [t] else t.slices (0 :: offsets ++ [t.text.length])

/-- A text with other characters; where they are fewer the spans end with them. -/
def withText (t : StyledText) (s : Text) : StyledText :=
  if s.length < t.text.length then
    { t with text := s, spans := t.spans.filterMap (Span.cropped? s.length) }
  else { t with text := s }

/-- The spans of a text, and one for its style. -/
def allSpans (t : StyledText) : List Span :=
  if t.style.isSome then ⟨0, t.text.length, t.style⟩ :: t.spans else t.spans

/-- Texts put together: what was the style of one is then a span. -/
def join : List StyledText → StyledText
  | [] => plain []
  | t :: rest =>
    let joined := join rest
    { joined with
      text := t.text ++ joined.text
      spans := t.allSpans ++ joined.spans.map (Span.shifted t.text.length) }

/-- The offsets at which a text has a character, from an offset on. -/
def offsetsOf (c : Char) : Nat → Text → List Nat
  | _, [] => []
  | offset, d :: s => if d = c then offset :: offsetsOf c (offset + 1) s else offsetsOf c (offset + 1) s

/-! ### Lines and tabs -/

def lines (t : StyledText) : List StyledText :=
  match offsetsOf '\n' 0 t.text with
  | [] => [t]
  | breaks =>
    ((0 :: breaks.map (· + 1)).zip (breaks ++ [t.text.length])).map fun ends => t.slice ends.1 ends.2

/-- A text with blanks after it, which have the styles that reach its end. -/
def extend (t : StyledText) (count : Nat) : StyledText :=
  let reached := fun (span : Span) =>
    if t.text.length ≤ span.stop then { span with stop := span.stop + count } else span
  { t with text := t.text ++ Text.spaces count, spans := t.spans.map reached }

/-- The parts of a line, where each tab at the end of one reaches the next multiple of eight cells. -/
def fillTabs : Nat → List StyledText → List StyledText
  | _, [] => []
  | position, part :: parts =>
    if Text.endsWith part.text ['\t'] then
      let shown := { part with text := part.text.dropLast ++ [' '] }
      let reached := position + Text.width shown.text
      let gap := (8 - reached % 8) % 8
      shown.extend gap :: fillTabs (reached + gap) parts
    else part :: fillTabs (position + Text.width part.text) parts

/-- A line with each tab replaced by blanks; its style is then on each of its parts. -/
def expandTabs (t : StyledText) : StyledText :=
  match offsetsOf '\t' 0 t.text with
  | [] => t
  | tabs =>
    let parts := t.cutAt (tabs.map (· + 1))
    { join (fillTabs 0 (parts.filter fun part => !part.text.isEmpty)) with style := t.style }

/-! ### Pieces -/

/-- The parts of a text between offsets, which are counted from `start`, without the empty ones. -/
def piecesFrom (start : Nat) (s : Text) : List Nat → List Text
  | [] => if s.isEmpty then [] else [s]
  | offset :: offsets =>
    let piece := s.take (offset - start)
    let rest := piecesFrom (max start offset) (s.drop (offset - start)) offsets
    if piece.isEmpty then rest else piece :: rest

/-- The pieces in which a text is printed: it is cut wherever a span begins or ends. -/
def pieces (t : StyledText) : List Text :=
  piecesFrom 0 t.text
    (stableSort (fun a b => a ≤ b) (t.spans.flatMap fun span => [span.start, span.stop]))

theorem flatten_piecesFrom (start : Nat) (s : Text) (offsets : List Nat) :
    (piecesFrom start s offsets).flatten = s := by
  induction offsets generalizing start s with
  | nil => cases s <;> simp [piecesFrom]
  | cons offset offsets ih =>
    unfold piecesFrom
    simp only
    split
    · next h =>
      rw [ih]
      have := List.take_append_drop (offset - start) s
      rwa [List.isEmpty_iff.1 h, List.nil_append] at this
    · rw [List.flatten_cons, ih, List.take_append_drop]

theorem flatten_pieces (t : StyledText) : t.pieces.flatten = t.text := flatten_piecesFrom 0 _ _

end StyledText

end SuppressionAudit

import SuppressionAudit.Text.Blank
import SuppressionAudit.Text.Cluster

/-!
# Word wrap

Where a line of text is broken into console lines. It is broken at words; a word carries the blanks
that follow it, the first one also those before it, and it fits where its visible part fits. A word
wider than a whole line is either folded into pieces or, where lines end in an ellipsis, given a line
of its own.
-/

namespace SuppressionAudit

namespace Text

/-! ### Preparing a line -/

/-- Whether a console refuses a character: bell, backspace, vertical tab, form feed, return. -/
def isConsoleControl (c : Char) : Bool :=
  let n := c.toNat
  n == 7 || n == 8 || n == 11 || n == 12 || n == 13

def dropControls (s : Text) : Text := s.filter fun c => !isConsoleControl c

/-! ### Words -/

/-- The runs of a text that begin where a blank is followed by something else. -/
def cutAtWords : Text → List Text
  | [] => []
  | c :: s =>
    match s, cutAtWords s with
    | d :: _, word :: rest =>
      if isBlank c && !isBlank d then [c] :: word :: rest else (c :: word) :: rest
    | _, rest => [c] :: rest

/-- The words of a line, each with the blanks after it and the first with those before it. -/
def wrapWords (line : Text) : List Text :=
  match cutAtWords line with
  | blanks :: word :: rest =>
    if blanks.all isBlank then (blanks ++ word) :: rest else blanks :: word :: rest
  | words => words

/-! ### Breaks -/

/-- What happens to a word that is wider than a line. -/
inductive Overflow where
  | fold
  | ellipsis
deriving DecidableEq, Repr

/-- Lines being filled: the offsets where lines begin, latest first, and the cells that the current
line uses. -/
structure Filling where
  breaks : List Nat
  used : Nat

namespace Filling

def empty : Filling := ⟨[], 0⟩

/-- Begins a line at an offset, unless that is where the text begins. -/
def breakAt (f : Filling) (start : Nat) : Filling :=
  if start = 0 then f else { f with breaks := start :: f.breaks }

/-- Puts the pieces of a folded word on lines of their own; the last one stays open. -/
def addPieces (f : Filling) (start : Nat) : List Text → Filling
  | [] => f
  | [piece] => { f.breakAt start with used := width piece }
  | piece :: pieces => addPieces (f.breakAt start) (start + piece.length) pieces

/-- Puts the next word, which begins at an offset, on the current line or on a new one. -/
def addWord (overflow : Overflow) (limit start : Nat) (f : Filling) (word : Text) : Filling :=
  let visible := width (trimEnd word)
  if f.used + visible ≤ limit then { f with used := f.used + width word }
  else if limit < visible then
    match overflow with
    | .fold => f.addPieces start (chop limit word)
    | .ellipsis => { f.breakAt start with used := width word }
  else if f.used = 0 then f
  else { f.breakAt start with used := width word }

/-- Puts words, the first of which begins at an offset, on lines. -/
def addWords (overflow : Overflow) (limit : Nat) : Nat → Filling → List Text → Filling
  | _, f, [] => f
  | start, f, word :: words =>
    addWords overflow limit (start + word.length) (f.addWord overflow limit start word) words

end Filling

/-- The offsets where the lines of a text begin, other than the first one. -/
def breakOffsets (overflow : Overflow) (limit : Nat) (line : Text) : List Nat :=
  (Filling.addWords overflow limit 0 Filling.empty (wrapWords line)).breaks.reverse

end Text

end SuppressionAudit

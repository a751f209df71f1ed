import SuppressionAudit.Console.Layout

/-!
# Panels

A panel is as wide as the console. Its text is wrapped inside a frame with one blank on each side. A
plain panel has a frame of blanks; a boxed one has a drawn frame with a title in its upper edge. On a
console without room inside the frame the text is not shown at all.
-/

namespace SuppressionAudit

open Text (CutFault)

namespace Panel

/-- Whether a panel has room for text. -/
def hasRoom (width : Nat) : Bool := 4 < width

/-- The lines between the edges of a frame, given the lines of the text: each is brought to its width
without the blanks around it, and again with them. -/
def inner (width : Nat) (content : List StyledText) : Except CutFault (List Line) :=
  match Line.mapAll (Line.fit (width - 4)) (content.map StyledText.pieces) with
  | .error e => .error e
  | .ok lines => Line.mapAll (fun line => Line.fit (width - 2) ([[' ']] ++ line ++ [[' ']])) lines

def wrapped (width : Nat) (t : StyledText) : Except CutFault (List StyledText) :=
  t.wrap .fold (width - 4) .none

/-- A panel framed by blanks. -/
def plain (width : Nat) (lines : List Line) : List Line :=
  [[Text.spaces width]] ++ lines.map (fun line => [[' ']] ++ line ++ [[' ']])
    ++ [[Text.spaces width]]

/-- A horizontal line. -/
def rule (n : Nat) : Text := List.replicate n '─'

/-- The upper edge of a boxed panel, with its title in the middle. -/
def upperEdge (width : Nat) (title : Text) : Text :=
  if hasRoom width then
    let label := ([' '] ++ title ++ [' ']).take (width - 4)
    let free := width - 4 - label.length
    ['╭', '─'] ++ rule (free / 2) ++ label ++ rule (free - free / 2) ++ ['─', '╮']
  else ['╭'] ++ rule (width - 2) ++ ['╮']

/-- A panel with a drawn frame and a title, whose characters take one cell each. -/
def boxed (width : Nat) (title : Text) (lines : List Line) : List Line :=
  [[upperEdge width title]]
    ++ lines.map (fun line => [['│']] ++ line ++ [['│']])
    ++ [[['╰'] ++ rule (width - 2) ++ ['╯']]]

end Panel

end SuppressionAudit

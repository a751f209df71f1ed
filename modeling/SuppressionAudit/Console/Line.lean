import SuppressionAudit.Text.Cluster

/-!
# Console lines

A line is printed in pieces, one for each change of style, and each piece is measured on its own. A
line that is too wide is cut in the piece that reaches the limit, and what follows that is left out.
-/

namespace SuppressionAudit

open Text (CutFault)

/-- The pieces of a line. -/
abbrev Line := List Text

namespace Line

def text (line : Line) : Text := line.flatten

def width (line : Line) : Nat := Text.sumOf (line.map Text.width)

/-- The pieces in front that leave room, and the next one, cut or filled up to what is left. -/
def takeCells : Nat → Line → Except CutFault Line
  | _, [] => .ok []
  | room, piece :: rest =>
    if Text.width piece < room then
      (takeCells (room - Text.width piece) rest).map (piece :: ·)
    else (Text.fitCells room piece).map fun piece => [piece]

def crop (total : Nat) (line : Line) : Except CutFault Line :=
  if total < width line then takeCells total line else .ok line

def fit (total : Nat) (line : Line) : Except CutFault Line :=
  if total < width line then takeCells total line
  else if width line < total then .ok (line ++ [Text.spaces (total - width line)])
  else .ok line

/-- The lines that a function makes of lines, unless it fails on one of them. -/
def mapAll (f : Line → Except CutFault Line) : List Line → Except CutFault (List Line)
  | [] => .ok []
  | line :: lines =>
    match f line with
    | .error e => .error e
    | .ok line => (mapAll f lines).map (line :: ·)

end Line

end SuppressionAudit

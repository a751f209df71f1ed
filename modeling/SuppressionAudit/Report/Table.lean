import SuppressionAudit.Report.Panel
import SuppressionAudit.Text.LineBreak

/-!
# Tables

A table has columns with a header, a side to which its cells are aligned, and perhaps a fixed width.
A cell takes one blank on each side of its content; a column is as wide as its longest line, unless
the table gets too wide. Then the widest columns without a fixed width are made narrower, together
and no further than the next widest, until the table fits. Text that does not fit is wrapped at words,
and a word that is too long is cut with an ellipsis.
-/

namespace SuppressionAudit

open Text (CutFault)

structure Column where
  header : Text
  alignRight : Bool
  fixed : Option Nat
deriving DecidableEq, Repr

namespace Table

/-! ### Column widths -/

/-- The quotient of two numbers, to the nearest, and to the even one of two that are as near. -/
def divideEven (n d : Nat) : Nat :=
  let q := n / d
  let r := n % d
  if 2 * r < d then q
  else if d < 2 * r then q + 1
  else q + q % 2

/-- Takes an excess off the columns that give way, evenly and from left to right, from none more than
its limit. -/
def reduceEvenly : Nat → Nat → List (Nat × Nat × Bool) → List Nat
  | _, _, [] => []
  | excess, sharing, (width, limit, givesWay) :: rest =>
    if givesWay && 0 < sharing then
      let share := min limit (divideEven excess sharing)
      (width - share) :: reduceEvenly (excess - share) (sharing - 1) rest
    else width :: reduceEvenly excess sharing rest

def largest (ns : List Nat) : Nat := ns.foldl max 0

/-- Makes the widest of the columns that may give way narrower until all fit into `total` cells. -/
def shrink (total : Nat) : Nat → List (Nat × Bool) → List Nat
  | 0, columns => columns.map Prod.fst
  | fuel + 1, columns =>
    let sum := Text.sumOf (columns.map Prod.fst)
    let excess := sum - total
    let flexible := (columns.filter Prod.snd).map Prod.fst
    let widest := largest flexible
    let next := largest (flexible.filter fun w => w != widest)
    let step := widest - next
    if excess = 0 ∨ step = 0 then columns.map Prod.fst
    else
      let limit := min excess step
      let marked := columns.map fun c => (c.1, limit, c.2 && c.1 == widest)
      let sharing := (marked.filter fun m => m.2.2).length
      shrink total fuel ((reduceEvenly excess sharing marked).zip (columns.map Prod.snd))

/-- Makes all columns narrower when even the shrunken ones do not fit. -/
def squeeze (total : Nat) (widths : List Nat) : List Nat :=
  let excess := Text.sumOf widths - total
  if excess = 0 then widths
  else
    let marked := widths.map fun w => (w, w, decide (0 < w))
    reduceEvenly excess (marked.filter fun m => m.2.2).length marked

/-- The cells that a text takes when it is not wrapped. -/
def measure (s : Text) : Nat := largest ((Text.measuredLines s).map Text.width)

/-- The cells that a column takes, with the blanks around its content, when `total` are free. -/
def naturalWidth (total : Nat) (column : Column) (cells : List Text) : Nat :=
  match column.fixed with
  | some n => min total (n + 2)
  | none => min total (largest (measure column.header :: cells.map measure) + 2)

/-- The widths of the columns of a table when `total` cells are free for them. -/
def columnWidths (total : Nat) (columns : List (Column × List Text)) : List Nat :=
  let natural := columns.map fun c => naturalWidth total c.1 c.2
  if Text.sumOf natural ≤ total then natural
  else
    let flexible := columns.map fun c => c.1.fixed.isNone
    let shrunk := shrink total (Text.sumOf natural) (natural.zip flexible)
    let widths := squeeze total shrunk
    (widths.zip columns).map fun entry => naturalWidth entry.1 entry.2.1 entry.2.2

/-! ### Rows -/

/-- The lines of a cell of some width: each is brought to its width without the blanks around it, and
again with them. A cell without room for content has no lines. -/
def cellLines (column : Column) (width : Nat) (t : StyledText) : Except CutFault (List Line) :=
  if width < 3 then .ok []
  else
    let alignment := if column.alignRight then Alignment.right else Alignment.left
    match t.wrap .ellipsis (width - 2) alignment with
    | .error e => .error e
    | .ok content =>
      match Line.mapAll (Line.fit (width - 2)) (content.map StyledText.pieces) with
      | .error e => .error e
      | .ok lines => Line.mapAll (fun line => Line.fit width ([[' ']] ++ line ++ [[' ']])) lines

/-- The cells of a row with their widths, laid out from left to right. -/
def rowCells : List (Column × Nat) → List StyledText → Except CutFault (List (Nat × List Line))
  | (column, width) :: columns, t :: row =>
    match cellLines column width t with
    | .error e => .error e
    | .ok lines => (rowCells columns row).map ((width, lines) :: ·)
  | _, _ => .ok []

/-- Cells whose lines are brought to their widths once more, as what was cut may measure otherwise. -/
def shapedCells : List (Nat × List Line) → Except CutFault (List (Nat × List Line))
  | [] => .ok []
  | (width, lines) :: cells =>
    match Line.mapAll (Line.fit width) lines with
    | .error e => .error e
    | .ok lines => (shapedCells cells).map ((width, lines) :: ·)

/-- The line at an index, or blanks where a cell has fewer lines. -/
def lineAt (width index : Nat) (lines : List Line) : Line :=
  (lines[index]?).getD [Text.spaces width]

/-- Pieces with a blank between those of neighbours. -/
def joinCells : List Line → Line
  | [] => []
  | [line] => line
  | line :: next :: rest => line ++ [[' ']] ++ joinCells (next :: rest)

/-- The lines of a row, of which there is at least one. -/
def rowLines (columns : List (Column × Nat)) (row : List StyledText) :
    Except CutFault (List Line) :=
  ((rowCells columns row).bind shapedCells).map fun cells =>
    let height := max 1 (largest (cells.map fun cell => cell.2.length))
    (List.range height).map fun index =>
      [[' ']] ++ joinCells (cells.map fun cell => lineAt cell.1 index cell.2) ++ [[' ']]

def rowsLines (columns : List (Column × Nat)) :
    List (List StyledText) → Except CutFault (List Line)
  | [] => .ok []
  | row :: rows =>
    match rowLines columns row with
    | .error e => .error e
    | .ok lines => (rowsLines columns rows).map (lines ++ ·)

def lines (consoleWidth : Nat) (columns : List Column) (rows : List (List StyledText)) :
    Except CutFault (List Line) :=
  let cellsOf := fun (index : Nat) => rows.filterMap fun row => row[index]?.map StyledText.text
  let withCells := columns.zipIdx.map fun entry => (entry.1, cellsOf entry.2)
  let widths := columnWidths (consoleWidth - (columns.length + 1)) withCells
  let sized := columns.zip widths
  let inside := Text.sumOf widths + (columns.length - 1)
  let edge : List Line := [[Text.spaces (inside + 2)]]
  let headers := columns.map fun column => StyledText.plain column.header
  match rowLines sized headers, rowsLines sized rows with
  | .ok header, .ok content =>
    .ok (edge ++ header ++ [[[' '] ++ Panel.rule inside ++ [' ']]] ++ content ++ edge)
  | .error e, _ => .error e
  | _, .error e => .error e

end Table

end SuppressionAudit

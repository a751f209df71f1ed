import SuppressionAudit.Glob.Cover

/-!
# Segment patterns

A pattern for one segment of a path. An asterisk stands for any characters, a question mark for any
one, and brackets for one character of a class. A class lists characters and ranges; a hyphen that
is first or last is a member, and so is a closing bracket that is first. A range whose ends are
reversed has no members. After the reversed ranges are gone, a leading exclamation mark excludes
the members: a class without members then holds every character, otherwise it holds none. A bracket
that is not closed stands for itself. There are no escapes.
-/

namespace SuppressionAudit

/-! ### Classes -/

inductive ClassItem where
  | one (c : Char)
  | range (low high : Char)
deriving DecidableEq, Repr

namespace ClassItem

/-- Whether an item has members at all. -/
def isProper : ClassItem → Bool
  | .one _ => true
  | .range low high => low ≤ high

/-- Whether a character is a member of an item. -/
def holds (item : ClassItem) (c : Char) : Bool :=
  match item with
  | .one d => c == d
  | .range low high => low ≤ c && c ≤ high

/-- The items that the text of a class lists. -/
def listOf : Text → List ClassItem
  | [] => []
  | c :: '-' :: d :: s => .range c d :: listOf s
  | c :: s => .one c :: listOf s

end ClassItem

/-- A class of characters: those that an item holds, or those that none does. -/
structure CharClass where
  excluding : Bool
  items : List ClassItem
deriving DecidableEq, Repr

namespace CharClass

def holds (cls : CharClass) (c : Char) : Bool :=
  (cls.items.any fun item => item.holds c) != cls.excluding

/-- The class between two brackets. -/
def ofText (s : Text) : CharClass :=
  match s with
  | '!' :: rest => ⟨true, (ClassItem.listOf rest).filter ClassItem.isProper⟩
  | s =>
    match (ClassItem.listOf s).filter ClassItem.isProper with
    | .one '!' :: items => ⟨true, items⟩
    | .range '!' high :: items => ⟨true, .one '-' :: .one high :: items⟩
    | items => ⟨false, items⟩

/-- The text up to the bracket that closes a class, when there is one. -/
def contentOf? (s : Text) : Option Text :=
  let front :=
    match s with
    | '!' :: ']' :: _ => 2
    | '!' :: _ => 1
    | ']' :: _ => 1
    | _ => 0
  match Text.cutAt ']' (s.drop front) with
  | (body, some _) => some (s.take front ++ body)
  | (_, none) => none

end CharClass

/-! ### Patterns -/

inductive SegmentPiece where
  | many
  | any
  | literal (c : Char)
  | oneOf (cls : CharClass)
deriving DecidableEq, Repr

abbrev SegmentPattern := List SegmentPiece

namespace SegmentPattern

/-- Whether a part that stands for one character stands for this one. -/
def pieceHolds (piece : SegmentPiece) (c : Char) : Bool :=
  match piece with
  | .many => false
  | .any => true
  | .literal d => c == d
  | .oneOf cls => cls.holds c

/-- The parts of a pattern's text whose first `inside` characters belong to a class that was read. -/
def piecesAfter : Nat → Text → SegmentPattern
  | _, [] => []
  | inside + 1, _ :: s => piecesAfter inside s
  | 0, c :: s =>
    if c = '*' then .many :: piecesAfter 0 s
    else if c = '?' then .any :: piecesAfter 0 s
    else if c = '[' then
      match CharClass.contentOf? s with
      | some content => .oneOf (CharClass.ofText content) :: piecesAfter (content.length + 1) s
      | none => .literal '[' :: piecesAfter 0 s
    else .literal c :: piecesAfter 0 s

/-- The pattern that a text writes. -/
def ofText (s : Text) : SegmentPattern := piecesAfter 0 s

def isMany (piece : SegmentPiece) : Bool := piece == .many

def accepts (pattern : SegmentPattern) (s : Text) : Bool :=
  Cover.decideCovers isMany pieceHolds pattern s

theorem accepts_eq (pattern : SegmentPattern) (s : Text) :
    accepts pattern s = Cover.covers isMany pieceHolds pattern s :=
  Cover.decideCovers_eq isMany pieceHolds pattern s

end SegmentPattern

end SuppressionAudit

import SuppressionAudit.Glob.Segment
import SuppressionAudit.Text.Blank

/-!
# Path patterns

A path pattern is matched against a path relative to the scan root, one segment between slashes at a
time. A segment of two asterisks takes any group of whole segments, also none; every other segment
of the pattern takes one segment of the path. Blanks around a pattern and one leading `./` do not
count, and a pattern that ends in a slash stands for everything below. A blank pattern matches
nothing. The match is made segment by segment, and how deep a stack it takes is left aside.
-/

namespace SuppressionAudit

def segmentsOf (s : Text) : List Text := Text.splitOn '/' s

namespace Glob

def anyGroup : Text := ['*', '*']

def isAnyGroup (head : Text) : Bool := head == anyGroup

/-- Whether a pattern segment takes one segment. -/
def takesOne (head segment : Text) : Bool := (SegmentPattern.ofText head).accepts segment

def takesAll (pattern path : List Text) : Bool := Cover.decideCovers isAnyGroup takesOne pattern path

theorem takesAll_eq (pattern path : List Text) :
    takesAll pattern path = Cover.covers isAnyGroup takesOne pattern path :=
  Cover.decideCovers_eq isAnyGroup takesOne pattern path

def dropHere (s : Text) : Text := (Text.dropLiteral? ['.', '/'] s).getD s

/-- A pattern that stands for everything below when it ends in a slash. -/
def completeBelow (s : Text) : Text := if Text.endsWith s ['/'] then s ++ anyGroup else s

/-- The segments that a pattern's text writes, unless it is blank. -/
def segments? (pattern : Text) : Option (List Text) :=
  let trimmed := Text.trim pattern
  if trimmed.isEmpty then none else some (segmentsOf (completeBelow (dropHere trimmed)))

def accepts (pattern path : Text) : Bool :=
  match segments? pattern with
  | none => false
  | some segments => takesAll segments (segmentsOf path)

def anyAccepts (patterns : List Text) (path : Text) : Bool := patterns.any fun p => accepts p path

end Glob

end SuppressionAudit

import SuppressionAudit.Text

/-!
# Paths

A path is an anchor, which is one slash, two slashes or nothing, and the names below it. Repeated
slashes and names that are a single dot disappear when a path is read; two dots stay, since what
they lead to depends on the disk. Paths are ordered by their names, one after the other, and not by
their text.
-/

namespace SuppressionAudit

/-- A path as it is written, without the parts that mean nothing. -/
structure Path where
  anchor : Text
  parts : List Text
deriving DecidableEq, Repr

namespace Path

def above : Text := ['.', '.']

def here : Text := ['.']

/-- The anchor of a path's text: exactly two slashes differ from any other number of them. -/
def anchorOf (s : Text) : Text :=
  match s with
  | '/' :: '/' :: '/' :: _ => ['/']
  | '/' :: '/' :: _ => ['/', '/']
  | '/' :: _ => ['/']
  | _ => []

def partsOf (s : Text) : List Text :=
  (Text.splitOn '/' s).filter fun part => !part.isEmpty && part != here

def ofText (s : Text) : Path := ⟨anchorOf s, partsOf s⟩

def joinParts (parts : List Text) : Text := Text.joinWith ['/'] parts

def toText (p : Path) : Text :=
  if p.anchor.isEmpty && p.parts.isEmpty then here else p.anchor ++ joinParts p.parts

/-- The path of names below a path. -/
def below (p : Path) (parts : List Text) : Path := ⟨p.anchor, p.parts ++ parts⟩

/-- A path seen from another one; an anchored path stays where it is. -/
def join (p q : Path) : Path := if q.anchor.isEmpty then p.below q.parts else q

/-- Whether a character of code zero is in a path: no system call takes such a path. -/
def hasNul (parts : List Text) : Bool := parts.any fun part => part.contains '\x00'

def name (p : Path) : Text := p.parts.getLast?.getD []

/-- The part of a name from its last dot on, when the dot is neither first nor last. -/
def suffixOf (name : Text) : Text :=
  let ending := (name.reverse.takeWhile fun c => c != '.').reverse
  if ending.length + 1 < name.length ∧ !ending.isEmpty then '.' :: ending else []

def suffix (p : Path) : Text := suffixOf p.name

/-- What follows a list in front of another one. -/
def dropParts? : List Text → List Text → Option (List Text)
  | [], parts => some parts
  | _ :: _, [] => none
  | a :: base, b :: parts => if a = b then dropParts? base parts else none

/-- The names that lead from a path down to another one. -/
def partsBelow? (base p : Path) : Option (List Text) :=
  if base.anchor = p.anchor then dropParts? base.parts p.parts else none

def relativeText (parts : List Text) : Text := toText ⟨[], parts⟩

/-- The order of two names: by their first different character. -/
def nameLe (a b : Text) : Bool := !(b < a)

/-- The order of two paths below one directory: by their first different name. -/
def partsLe (a b : List Text) : Bool := !(b < a)

theorem dropParts?_append (base parts : List Text) : dropParts? base (base ++ parts) = some parts := by
  induction base with
  | nil => rfl
  | cons a base ih => simp [dropParts?, ih]

theorem partsBelow?_below (p : Path) (parts : List Text) : partsBelow? p (p.below parts) = some parts := by
  simp [partsBelow?, below, dropParts?_append]

end Path

end SuppressionAudit

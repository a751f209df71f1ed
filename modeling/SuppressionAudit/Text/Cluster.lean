import SuppressionAudit.Text.CellWidth

/-!
# Clusters

A line is cut between clusters: a character that takes cells, with the characters after it that only
change how it looks. Characters in front that take no cell are a cluster of their own. Main
statement: the clusters of a text, one after the other, are the text.
-/

namespace SuppressionAudit

namespace Text

/-- Characters that stay together, and the cells that they take. -/
structure Cluster where
  chars : Text
  width : Nat
deriving DecidableEq, Repr

/-- Clusters being read: those so far, latest first, whether a joiner came just before, and the
latest character that takes cells, if there is one that a mark can still make wider. -/
structure Clustering where
  found : List Cluster
  joined : Bool
  latest : Option Char

namespace Clustering

def empty : Clustering := ⟨[], false, none⟩

/-- The clusters with a character added to the latest one, which gets some cells wider. -/
def extend (found : List Cluster) (c : Char) (wider : Nat) : List Cluster :=
  match found with
  | [] => [⟨[c], 0⟩]
  | cluster :: rest => ⟨cluster.chars ++ [c], cluster.width + wider⟩ :: rest

def read (r : Clustering) (c : Char) : Clustering :=
  if r.joined then { r with found := extend r.found c 0, joined := false }
  else if c = joiner then { r with found := extend r.found c 0, joined := !r.found.isEmpty }
  else if c = emojiMark then ⟨extend r.found c (markWidth r.latest), false, none⟩
  else if charWidth c = 0 then { r with found := extend r.found c 0 }
  else ⟨⟨[c], charWidth c⟩ :: r.found, false, some c⟩

end Clustering

def clusters (s : Text) : List Cluster := (s.foldl Clustering.read Clustering.empty).found.reverse

namespace Clustering

/-- The text that clusters were read from. -/
def text (found : List Cluster) : Text := (found.reverse.map Cluster.chars).flatten

theorem text_extend (found : List Cluster) (c : Char) (wider : Nat) :
    text (extend found c wider) = text found ++ [c] := by
  cases found with
  | nil => rfl
  | cons cluster rest => simp [extend, text]

theorem text_read (r : Clustering) (c : Char) : text (r.read c).found = text r.found ++ [c] := by
  unfold read
  repeat' split
  all_goals first
    | exact text_extend _ _ _
    | simp [text]

theorem text_foldl_read (s : Text) (r : Clustering) :
    text (s.foldl read r).found = text r.found ++ s := by
  induction s generalizing r with
  | nil => simp
  | cons c s ih => rw [List.foldl_cons, ih, text_read]; simp

end Clustering

theorem flatten_clusters (s : Text) : ((clusters s).map Cluster.chars).flatten = s :=
  Clustering.text_foldl_read s Clustering.empty

/-! ### Cutting -/

/-- Why a text cannot be cut after a number of cells: its clusters take none at all, or fewer. The
clusters of a text take fewer cells than the text where it begins with two joiners. -/
inductive CutFault where
  | noCells
  | tooShort
deriving DecidableEq, Repr

def clustersWidth (found : List Cluster) : Nat := sumOf (found.map Cluster.width)

/-- The clusters in front that fit into a number of cells; half a cluster becomes a blank. -/
def takeClusters : Nat → List Cluster → Text
  | 0, _ => []
  | _ + 1, [] => []
  | room + 1, cluster :: rest =>
    if cluster.width ≤ room + 1 then
      cluster.chars ++ takeClusters (room + 1 - cluster.width) rest
    else [' ']

/-- A text cut after a number of cells. -/
def takeCells (total : Nat) (s : Text) : Except CutFault Text :=
  let found := clusters s
  if total = 0 then .ok []
  else if clustersWidth found = 0 then .error .noCells
  else if clustersWidth found < total then .error .tooShort
  else .ok (takeClusters total found)

def fitCells (total : Nat) (s : Text) : Except CutFault Text :=
  if total = 0 then .ok []
  else if total < width s then takeCells total s
  else .ok (padRight total s)

/-- The pieces of clusters that follow a started piece, each of at most `limit` cells. -/
def chopAfter (limit used : Nat) (piece : Text) : List Cluster → List Text
  | [] => if used = 0 then [] else [piece]
  | cluster :: rest =>
    if limit < used + cluster.width then
      piece :: chopAfter limit cluster.width cluster.chars rest
    else chopAfter limit (used + cluster.width) (piece ++ cluster.chars) rest

/-- A word cut into pieces of at most `limit` cells; the first one is empty where not even the first
cluster fits. -/
def chop (limit : Nat) (s : Text) : List Text := chopAfter limit 0 [] (clusters s)

end Text

end SuppressionAudit

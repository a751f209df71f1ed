import SuppressionAudit.Path
import SuppressionAudit.StableSort
import SuppressionAudit.Text.Utf8
import SuppressionAudit.Tree.Node

/-!
# Disks

A disk is a tree of directories, files and symbolic links; a link names its target by a text. A path
is resolved name by name: every name but the last must lead to a directory in which names may be
looked up, two dots lead to the directory above the one that was reached, and a link is replaced by
its target, up to a limit. The real path of a path is more lenient: names that lead nowhere stay as
they are.
-/

namespace SuppressionAudit

/-- What lies at a place on a disk. A directory may refuse to be listed, and it may refuse all that is
looked up in it: the one does not tell the other. -/
inductive DiskItem where
  | file (content : Except Fault (List UInt8))
  | directory (listing lookups : Option Fault) (entries : List (Text × DiskItem))
  | link (target : Text)

structure Disk where
  top : DiskItem

namespace DiskItem

/-- What lies at names below an item, links not followed. -/
def at? : DiskItem → List Text → Option DiskItem
  | item, [] => some item
  | .directory _ _ entries, name :: rest =>
    match entries.lookup name with
    | some item => item.at? rest
    | none => none
  | _, _ :: _ => none

mutual

def count : DiskItem → Nat
  | .file _ => 1
  | .link _ => 1
  | .directory _ _ entries => countEntries entries + 1

def countEntries : List (Text × DiskItem) → Nat
  | [] => 0
  | (_, item) :: rest => item.count + countEntries rest

end

end DiskItem

namespace Disk

/-- What lies at a path, links not followed. -/
def item? (disk : Disk) (parts : List Text) : Option DiskItem := disk.top.at? parts

/-! ### Resolving paths -/

def linkLimit : Nat := 40

def nameLimit : Nat := 255

def pathLimit : Nat := 4095

def isLongName (name : Text) : Bool := nameLimit < (Utf8.encode name).length

def pathLength (parts : List Text) : Nat :=
  Text.sumOf (parts.map fun part => (Utf8.encode part).length + 1)

def isLongPath (parts : List Text) : Bool := pathLimit < pathLength parts

/-- Whether a name stays in the directory: a dot, or nothing between two slashes or at the end. -/
def staysHere (part : Text) : Bool := part.isEmpty || part == Path.here

/-- The directory from which a link's target is seen, when the link lies in `found`. -/
def originOf (target : Text) (found : List Text) : List Text :=
  if Text.startsWith target ['/'] then [] else found

/-- Where names lead from a path without links, given where the names lead that stand in for a link. -/
def resolveAlong (disk : Disk) (follow : List Text → List Text → Except Fault (List Text)) :
    List Text → List Text → Except Fault (List Text)
  | found, [] => .ok found
  | found, part :: rest =>
    match disk.item? found with
    | some (.directory _ lookups _) =>
      match part, lookups with
      | [], _ => resolveAlong disk follow found rest
      | _, some fault => .error fault
      | _, none =>
        if part = Path.here then resolveAlong disk follow found rest
        else if part = Path.above then resolveAlong disk follow found.dropLast rest
        else if isLongName part then .error .nameTooLong
        else
          match disk.item? (found ++ [part]) with
          | none => .error .notFound
          | some (.link target) =>
            follow (originOf target found) (Text.splitOn '/' target ++ rest)
          | some _ => resolveAlong disk follow (found ++ [part]) rest
    | some _ => .error .notDirectory
    | none => .error .notFound

/-- Where names lead from a path without links, through so many links at most. -/
def resolveFrom (disk : Disk) : Nat → List Text → List Text → Except Fault (List Text)
  | 0 => disk.resolveAlong fun _ _ => .error .tooManyLinks
  | links + 1 => disk.resolveAlong (disk.resolveFrom links)

def resolve (disk : Disk) (parts : List Text) : Except Fault (List Text) :=
  if isLongPath parts then .error .nameTooLong else disk.resolveFrom linkLimit [] parts

/-- What lies at a path once its links are followed, if anything does. It cannot be told when the path
is refused for another reason than that nothing lies there. -/
def look (disk : Disk) (parts : List Text) : Except Fault (Option DiskItem) :=
  match disk.resolve parts with
  | .ok real => .ok (disk.item? real)
  | .error fault => if fault.isAbsence then .ok none else .error fault

/-- What lies at a name in the directory at a path, a link as it is. -/
def peek (disk : Disk) (above : List Text) (name : Text) : Except Fault DiskItem :=
  if isLongPath (above ++ [name]) then .error .nameTooLong
  else
    match disk.resolve above with
    | .error fault => .error fault
    | .ok real =>
      match disk.item? real with
      | some (.directory _ (some fault) _) => .error fault
      | some (.directory _ none entries) =>
        if isLongName name then .error .nameTooLong
        else
          match entries.lookup name with
          | some item => .ok item
          | none => .error .notFound
      | some _ => .error .notDirectory
      | none => .error .notFound

def isDirectory : Option DiskItem → Bool
  | some (.directory _ _ _) => true
  | _ => false

def isFile : Option DiskItem → Bool
  | some (.file _) => true
  | _ => false

def read (disk : Disk) (parts : List Text) : Except Fault (List UInt8) :=
  match disk.resolve parts with
  | .error fault => .error fault
  | .ok real =>
    match disk.item? real with
    | some (.file content) => content
    | some _ => .error .isDirectory
    | none => .error .notFound

/-! ### Real paths -/

/-- The links that were met on the way to a real path, each with what it was replaced by, or nothing
as long as its target is being followed. -/
abbrev MetLinks := List (List Text × Option (List Text))

/-- How far a real path was found: the names, whether no link led back to itself, and the links. -/
structure RealPath where
  parts : List Text
  complete : Bool
  met : MetLinks

/-- The real path of names below a real path; a link that leads back to itself stays, and so does all
that follows it. What cannot be looked up is no link. -/
def realPathFrom (disk : Disk) : Nat → MetLinks → List Text → List Text → RealPath
  | _, met, found, [] => ⟨found, true, met⟩
  | fuel, met, found, part :: rest =>
    let next := found ++ [part]
    if staysHere part then realPathFrom disk fuel met found rest
    else if part = Path.above then realPathFrom disk fuel met found.dropLast rest
    else
      match disk.peek found part with
      | .ok (.link target) =>
        match met.lookup next, fuel with
        | some (some real), fuel => realPathFrom disk fuel met real rest
        | none, left + 1 =>
          let followed := realPathFrom disk left ((next, none) :: met) (originOf target found)
            (Text.splitOn '/' target)
          if followed.complete then
            realPathFrom disk (left + 1) ((next, some followed.parts) :: followed.met) followed.parts
              rest
          else { followed with parts := followed.parts ++ rest }
        | _, _ => ⟨next ++ rest, false, met⟩
      | _ => realPathFrom disk fuel met next rest
termination_by fuel _ _ parts => (fuel, parts.length)

/-- Names without those that stay in the directory, and without two dots and the name before them. -/
def normalized (parts : List Text) : List Text :=
  (parts.foldl (fun found part =>
    if staysHere part then found
    else if part = Path.above then found.drop 1
    else part :: found) []).reverse

/-- The real path of a path; links inside each other are all different. -/
def realPath (disk : Disk) (parts : List Text) : List Text :=
  normalized (disk.realPathFrom disk.top.count [] [] parts).parts

end Disk

end SuppressionAudit

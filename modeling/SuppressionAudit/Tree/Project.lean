import SuppressionAudit.Tree.Disk

/-!
# Projects

A project is a directory on a disk. Its files are read by paths below the root, which the disk
resolves as they are written; a walk through the project meets the tree that is unfolded from the
disk, with the entries of each directory by name. Every entry is looked up by the path that leads to
it, links on the way included. So a link to a directory that encloses it is unfolded again and again,
until the system follows no more links, and an entry that was reached by a path that is too long, or
in a directory that refuses lookups, is unreachable, whatever it is.
-/

namespace SuppressionAudit

namespace Disk

/-- What an entry of a directory unfolds to, when the directory was reached as `written`, lies at `real`,
and `go` tells what unfolds at a path without links that was reached in some way. -/
def unfoldEntry (disk : Disk) (go : List Text → List Text → Node) (written real : List Text) (name : Text) :
    Node :=
  let place := written ++ [name]
  match disk.peek written name with
  | .error fault => if fault.isAbsence then .deadLink else .unreachable fault
  | .ok (.link _) =>
    match disk.resolve place with
    | .ok target => .link fun _ => go place target
    | .error fault => if fault.isAbsence then .deadLink else .barredLink fault
  | .ok _ => go place (real ++ [name])

/-- The tree at a path without links, which was reached as `written`. Every step makes that path longer,
and there is no more to unfold where it is too long. -/
def unfold (disk : Disk) : Nat → List Text → List Text → Node
  | 0, _, _ => .deadLink
  | fuel + 1, written, real =>
    match disk.item? real with
    | some (.file _) => .file
    | some (.directory listing _ entries) =>
      let sorted := stableSort (fun a b => Path.nameLe a.1 b.1) entries
      .directory listing
        (sorted.map fun entry => (entry.1, disk.unfoldEntry (disk.unfold fuel) written real entry.1))
    | _ => .deadLink

/-- The tree at a path without links. -/
def tree (disk : Disk) (real : List Text) : Node := disk.unfold (pathLimit + 1) real real

end Disk

/-- A project: the path of its root, without links, and the disk that it lies on. -/
structure Project where
  root : Path
  disk : Disk

inductive RootFault where
  | missing
  | notDirectory
  | nameTooLong
  | linkLoop
  | nul
deriving DecidableEq, Repr

namespace Project

/-- The project at a path, when a directory lies there. A directory above it that refuses lookups
makes the path count as missing. -/
def openAt (disk : Disk) (parts : List Text) : Except RootFault Project :=
  if Path.hasNul parts then .error .nul
  else
    let real := disk.realPath parts
    match disk.resolve real with
    | .error .nameTooLong => .error .nameTooLong
    | .error .tooManyLinks => .error .linkLoop
    | .error _ => .error .missing
    | .ok found =>
      if Disk.isDirectory (disk.item? found) then .ok ⟨⟨['/'], real⟩, disk⟩
      else .error .notDirectory

def tree (project : Project) : Node := project.disk.tree project.root.parts

def pathText (project : Project) (parts : List Text) : Text := (project.root.below parts).toText

def read (project : Project) (parts : List Text) : Except Fault (List UInt8) :=
  project.disk.read (project.root.below parts).parts

def hasEntry (project : Project) (parts : List Text) : Except Fault Bool :=
  (project.disk.look (project.root.below parts).parts).map Option.isSome

end Project

end SuppressionAudit

import SuppressionAudit.Tree.Disk

/-!
# Changes to a disk

An audit only reads a disk. What a recording lays out before an audit, and changes between the audits
of a session, is put on the disk here: files and links with the directories above them, deleted files,
and what refuses access. Main statement: what was put at a path lies there, as long as the directory
above it is there.
-/

namespace SuppressionAudit

namespace DiskItem

/-- Entries with another item, or none, under a name. -/
def alterEntry (name : Text) (change : Option DiskItem → Option DiskItem) :
    List (Text × DiskItem) → List (Text × DiskItem)
  | [] => (change none).toList.map fun item => (name, item)
  | (other, item) :: rest =>
    if name == other then (change (some item)).toList.map (fun item => (name, item)) ++ rest
    else (other, item) :: alterEntry name change rest

/-- An item with another one, or none, at names below it, where the directories above are there. -/
def alter (change : Option DiskItem → Option DiskItem) : List Text → DiskItem → DiskItem
  | [name], .directory listing lookups entries =>
    .directory listing lookups (alterEntry name change entries)
  | name :: rest, .directory listing lookups entries =>
    .directory listing lookups (alterEntry name (fun item => item.map (alter change rest)) entries)
  | _, item => item

theorem lookup_alterEntry {name : Text} {entries : List (Text × DiskItem)} {item : DiskItem}
    {change : Option DiskItem → Option DiskItem}
    (h : change (entries.lookup name) = some item) :
    (alterEntry name change entries).lookup name = some item := by
  induction entries with
  | nil =>
    have h : change none = some item := h
    simp [alterEntry, h]
  | cons entry rest ih =>
    obtain ⟨other, found⟩ := entry
    by_cases e : (name == other) = true
    · simp only [List.lookup_cons, e] at h
      simp [alterEntry, e, h]
    · have e : (name == other) = false := by simpa using e
      simp only [List.lookup_cons, e] at h
      simp [alterEntry, e, List.lookup_cons, ih h]

end DiskItem

namespace Disk

def empty : Disk := ⟨.directory none none []⟩

def put (disk : Disk) (parts : List Text) (item : DiskItem) : Disk :=
  ⟨disk.top.alter (fun _ => some item) parts⟩

def remove (disk : Disk) (parts : List Text) : Disk := ⟨disk.top.alter (fun _ => none) parts⟩

theorem item?_put {disk : Disk} {parts : List Text} {name : Text} {item : DiskItem}
    {listing lookups : Option Fault} {entries : List (Text × DiskItem)}
    (h : disk.item? parts = some (.directory listing lookups entries)) :
    (disk.put (parts ++ [name]) item).item? (parts ++ [name]) = some item := by
  obtain ⟨top⟩ := disk
  simp only [item?, put] at h ⊢
  induction parts generalizing top with
  | nil =>
    simp only [DiskItem.at?, Option.some.injEq] at h
    subst h
    have : (DiskItem.alterEntry name (fun _ => some item) entries).lookup name = some item :=
      DiskItem.lookup_alterEntry rfl
    simp [DiskItem.alter, DiskItem.at?, this]
  | cons first rest ih =>
    cases top with
    | file _ => simp [DiskItem.at?] at h
    | link _ => simp [DiskItem.at?] at h
    | directory outer refusal inner =>
      cases found : inner.lookup first with
      | none => simp [DiskItem.at?, found] at h
      | some child =>
        simp only [DiskItem.at?, found] at h
        have step : ∀ names, names ≠ [] →
            DiskItem.alter (fun _ => some item) (first :: names) (.directory outer refusal inner)
              = .directory outer refusal (DiskItem.alterEntry first
                  (fun i => i.map (DiskItem.alter (fun _ => some item) names)) inner) := by
          intro names hn
          cases names with
          | nil => exact absurd rfl hn
          | cons _ _ => simp [DiskItem.alter]
        rw [List.cons_append, step _ (by simp)]
        have moved : (DiskItem.alterEntry first
            (fun i => i.map (DiskItem.alter (fun _ => some item) (rest ++ [name]))) inner).lookup first
              = some (child.alter (fun _ => some item) (rest ++ [name])) :=
          DiskItem.lookup_alterEntry (by rw [found]; rfl)
        simp only [DiskItem.at?, moved]
        exact ih child h

/-! ### Changes and their failures -/

/-- Makes the item at a path refuse to be read or listed. -/
def refuse (disk : Disk) (parts : List Text) (fault : Fault) : Disk :=
  ⟨disk.top.alter (fun item => item.map fun
    | .file _ => .file (.error fault)
    | .directory _ lookups entries => .directory (some fault) lookups entries
    | .link target => .link target) parts⟩

/-- Why a change failed: the system refuses a path, or too many directories above it are missing. -/
inductive ChangeFailure where
  | refused (parts : List Text) (fault : Fault)
  | tooDeep

/-- What a change left behind: the disk, and why the change failed, if it did. -/
structure Change where
  disk : Disk
  failure : Option ChangeFailure

/-- What making a directory left behind: the disk, and the path of the directory without links. -/
structure MadeDirectory where
  disk : Disk
  place : Except ChangeFailure (List Text)

/-- Makes the directory of a name in the directory at a path without links, unless it is there. -/
def makeIn (disk : Disk) (parts real : List Text) (name : Text) : MadeDirectory :=
  let failed := fun (fault : Fault) => MadeDirectory.mk disk (.error (.refused parts fault))
  match disk.item? real with
  | some (.directory _ _ _) =>
    if name = Path.above then ⟨disk, .ok real.dropLast⟩
    else if isLongName name then failed .nameTooLong
    else
      match disk.item? (real ++ [name]) with
      | none => ⟨disk.put (real ++ [name]) (.directory none none []), .ok (real ++ [name])⟩
      | some _ =>
        match disk.resolve parts with
        | .ok found => if isDirectory (disk.item? found) then ⟨disk, .ok found⟩ else failed .exists
        | .error .nameTooLong => failed .nameTooLong
        | .error _ => failed .exists
  | _ => failed .notDirectory

def makingLimit : Nat := 985

/-- Makes a directory, whose names are listed from the last one on, and those above it that are
missing, at most `left` of them. -/
def makeDirectoryUp (disk : Disk) : Nat → List Text → MadeDirectory
  | _, [] => ⟨disk, .ok []⟩
  | left, name :: above =>
    let parts := (name :: above).reverse
    if isLongPath parts then ⟨disk, .error (.refused parts .nameTooLong)⟩
    else
      match disk.resolve above.reverse, left with
      | .ok real, _ => disk.makeIn parts real name
      | .error .notFound, 0 => ⟨disk, .error .tooDeep⟩
      | .error .notFound, left + 1 =>
        let made := makeDirectoryUp disk left above
        match made.place with
        | .ok real => made.disk.makeIn parts real name
        | .error _ => made
      | .error fault, _ => ⟨disk, .error (.refused parts fault)⟩

/-- Makes a directory and those above it, unless they are there. -/
def makeDirectory (disk : Disk) (parts : List Text) : MadeDirectory :=
  disk.makeDirectoryUp makingLimit parts.reverse

/-- Puts an item at a path and makes the directories above it. -/
def place (disk : Disk) (parts : List Text) (item : DiskItem) : Disk :=
  let made := disk.makeDirectory parts.dropLast
  match made.place with
  | .ok real => made.disk.put (real ++ parts.getLast?.toList) item
  | .error _ => made.disk

/-- The path without links at which a file is made, when a path may end in links. -/
def filePath (disk : Disk) : Nat → List Text → Except Fault (List Text)
  | links, parts =>
    match disk.resolveFrom linkLimit [] parts with
    | .ok real => .ok real
    | .error .notFound =>
      match disk.resolveFrom linkLimit [] parts.dropLast with
      | .error fault => .error fault
      | .ok real =>
        match links, disk.item? (real ++ parts.getLast?.toList) with
        | left + 1, some (.link target) =>
          let parts := originOf target real ++ (Path.ofText target).parts
          if Text.endsWith target ['/'] then
            match disk.resolveFrom linkLimit [] parts.dropLast with
            | .error fault => .error fault
            | .ok _ => .error .isDirectory
          else filePath disk left parts
        | 0, some _ => .error .tooManyLinks
        | _, _ => .ok (real ++ parts.getLast?.toList)
    | .error fault => .error fault

/-- Writes a file and makes the directories above it, which stay when the file cannot be written. A
file that refuses to be read still does so after it was written. -/
def writeFile (disk : Disk) (parts : List Text) (content : List UInt8) : Change :=
  let made := disk.makeDirectory parts.dropLast
  let failed := fun (fault : Fault) => Change.mk made.disk (some (.refused parts fault))
  match made.place with
  | .error failure => ⟨made.disk, some failure⟩
  | .ok _ =>
    if isLongPath parts then failed .nameTooLong
    else
      match made.disk.filePath linkLimit parts with
      | .error fault => failed fault
      | .ok real =>
        match made.disk.item? real with
        | some (.directory _ _ _) => failed .isDirectory
        | some (.file (.error _)) => ⟨made.disk, none⟩
        | _ => ⟨made.disk.put real (.file (.ok content)), none⟩

def deleteFile (disk : Disk) (parts : List Text) : Change :=
  let failed := fun (fault : Fault) => Change.mk disk (some (.refused parts fault))
  if isLongPath parts then failed .nameTooLong
  else
    match disk.resolve parts.dropLast, parts.getLast? with
    | .error fault, _ => failed fault
    | .ok _, none => failed .isDirectory
    | .ok real, some name =>
      match disk.item? real, disk.item? (real ++ [name]) with
      | some (.file _), _ => failed .notDirectory
      | _, some (.directory _ _ _) => failed .isDirectory
      | _, some _ => ⟨disk.remove (real ++ [name]), none⟩
      | _, none => failed (if name = Path.above then .isDirectory else .notFound)

end Disk

end SuppressionAudit

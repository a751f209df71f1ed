import SuppressionAudit.Proofs.Discovery.Found

/-!
# Trees of disks

Every path of a tree that is unfolded is one that the system takes, so that the unfolding never runs out,
not even where links lead round in circles. A disk on which no directory lists a name twice unfolds into a
tree of which the same is true, whatever links lead where. So no source file of a project on such a disk is
found twice, nor is any path of one.
-/

namespace SuppressionAudit

namespace DiskItem

mutual

/-- No directory lists a name twice. -/
def NamesDistinct : DiskItem → Prop
  | .directory _ _ entries => (entries.map Prod.fst).Nodup ∧ EachDistinct entries
  | _ => True

def EachDistinct : List (Text × DiskItem) → Prop
  | [] => True
  | (_, item) :: entries => NamesDistinct item ∧ EachDistinct entries

end

theorem namesDistinct_directory_iff {listing lookups : Option Fault} {entries : List (Text × DiskItem)} :
    (directory listing lookups entries).NamesDistinct ↔
      (entries.map Prod.fst).Nodup ∧ EachDistinct entries := by
  simp [NamesDistinct]

theorem EachDistinct.lookup {name : Text} {item : DiskItem} {entries : List (Text × DiskItem)}
    (h : EachDistinct entries) (hitem : entries.lookup name = some item) : item.NamesDistinct := by
  induction entries with
  | nil => simp at hitem
  | cons entry entries ih =>
    obtain ⟨other, found⟩ := entry
    obtain ⟨hfound, hrest⟩ : found.NamesDistinct ∧ EachDistinct entries := by simpa [EachDistinct] using h
    cases heq : name == other with
    | true =>
      simp only [List.lookup_cons, heq, Option.some.injEq] at hitem
      exact hitem ▸ hfound
    | false =>
      simp only [List.lookup_cons, heq] at hitem
      exact ih hrest hitem

theorem NamesDistinct.at? {item found : DiskItem} {parts : List Text} (h : item.NamesDistinct)
    (hfound : item.at? parts = some found) : found.NamesDistinct := by
  induction parts generalizing item with
  | nil =>
    simp only [DiskItem.at?, Option.some.injEq] at hfound
    exact hfound ▸ h
  | cons name rest ih =>
    cases item with
    | file content => simp [DiskItem.at?] at hfound
    | link target => simp [DiskItem.at?] at hfound
    | directory listing lookups entries =>
      cases hchild : entries.lookup name with
      | none => simp [DiskItem.at?, hchild] at hfound
      | some child =>
        simp only [DiskItem.at?, hchild] at hfound
        exact ih ((namesDistinct_directory_iff.1 h).2.lookup hchild) hfound

end DiskItem

/-- No directory on a disk lists a name twice. -/
def Disk.NamesDistinct (disk : Disk) : Prop := disk.top.NamesDistinct

namespace Disk

variable {disk : Disk}

/-! ### Unfolding as far as the system goes -/

theorem pathLength_append_one (parts : List Text) (name : Text) :
    pathLength (parts ++ [name]) = pathLength parts + ((Utf8.encode name).length + 1) := by
  unfold pathLength
  induction parts with
  | nil => simp [Text.sumOf]
  | cons part parts ih =>
    simp only [List.cons_append, List.map_cons, Text.sumOf]
    omega

theorem le_pathLimit_of_peek {above : List Text} {name : Text} {item : DiskItem}
    (h : disk.peek above name = .ok item) : pathLength (above ++ [name]) ≤ pathLimit := by
  unfold peek at h
  split at h
  · simp at h
  · next hlong => simpa [isLongPath] using hlong

/-- What an entry unfolds to rests on what paths unfold to that the system takes. -/
theorem unfoldEntry_congr {go other : List Text → List Text → Node} {written real : List Text} {name : Text}
    (h : pathLength (written ++ [name]) ≤ pathLimit →
      ∀ target, go (written ++ [name]) target = other (written ++ [name]) target) :
    disk.unfoldEntry go written real name = disk.unfoldEntry other written real name := by
  unfold unfoldEntry
  cases hpeek : disk.peek written name with
  | error fault => rfl
  | ok item =>
    have heq := h (le_pathLimit_of_peek hpeek)
    cases item with
    | file content => exact heq _
    | directory listing lookups entries => exact heq _
    | link target =>
      dsimp only
      cases disk.resolve (written ++ [name]) with
      | error fault => rfl
      | ok real => simp only [heq]

/-- With as much fuel as a path may have bytes, more of it makes no difference. -/
theorem unfold_add {fuel : Nat} {written real : List Text} (h : pathLimit < pathLength written + fuel)
    (hfuel : fuel ≠ 0) (more : Nat) : disk.unfold (fuel + more) written real = disk.unfold fuel written real := by
  induction fuel generalizing written real with
  | zero => exact absurd rfl hfuel
  | succ fuel ih =>
    rw [Nat.succ_add]
    unfold unfold
    cases disk.item? real with
    | none => rfl
    | some item =>
      cases item with
      | file content => rfl
      | link target => rfl
      | directory listing lookups entries =>
        simp only [Node.directory.injEq, true_and]
        refine List.map_congr_left fun entry _ => ?_
        refine congrArg _ (unfoldEntry_congr fun hshort target => ?_)
        have hlonger := pathLength_append_one written entry.1
        exact ih (by omega) (by omega)

theorem unfold_tree (disk : Disk) (real : List Text) (more : Nat) :
    disk.unfold (pathLimit + 1 + more) real real = disk.tree real :=
  unfold_add (by omega) (by omega) more

/-! ### Names that are listed once -/

theorem namesDistinct_unfold (h : disk.NamesDistinct) {fuel : Nat} {written real : List Text} :
    (disk.unfold fuel written real).NamesDistinct := by
  induction fuel generalizing written real with
  | zero => trivial
  | succ fuel ih =>
    unfold unfold
    cases hitem : disk.item? real with
    | none => trivial
    | some item =>
      cases item with
      | file content => trivial
      | link target => trivial
      | directory listing lookups entries =>
        have hentries := (DiskItem.namesDistinct_directory_iff.1 (h.at? hitem)).1
        refine Node.namesDistinct_directory_iff.2 ⟨?_, Node.eachDistinct_iff.2 ?_⟩
        · rw [List.map_map]
          exact ((stableSort_perm _ entries).map Prod.fst).nodup_iff.2 hentries
        · intro entry hentry
          obtain ⟨listed, -, rfl⟩ := List.mem_map.1 hentry
          -- a link unfolds to what it leads to, all else where it is
          unfold unfoldEntry
          cases disk.peek written listed.1 with
          | error fault => cases hfault : fault.isAbsence <;> simp [Node.NamesDistinct, hfault]
          | ok found =>
            cases found with
            | file content => exact ih
            | directory listing lookups entries => exact ih
            | link target =>
              dsimp only
              cases disk.resolve (written ++ [listed.1]) with
              | error fault => cases hfault : fault.isAbsence <;> simp [Node.NamesDistinct, hfault]
              | ok real => exact Node.namesDistinct_link_iff.2 ih

theorem namesDistinct_tree (h : disk.NamesDistinct) (real : List Text) : (disk.tree real).NamesDistinct :=
  namesDistinct_unfold h

end Disk

/-! ### Source files -/

theorem nodup_findSourceFiles {project : Project} (h : project.disk.NamesDistinct) (o : DiscoveryOptions) :
    (findSourceFiles o project).Nodup := by
  have htree := Disk.namesDistinct_tree h project.root.parts
  refine (stableSort_perm _ _).nodup_iff.2 ?_
  rw [Project.tree]
  generalize project.disk.tree project.root.parts = root at htree
  cases root with
  | directory fault entries => exact Discovery.nodup_foundIn (Discovery.nodup_walk htree)
  | file => exact List.nodup_nil
  | link target => exact List.nodup_nil
  | deadLink => exact List.nodup_nil
  | barredLink fault => exact List.nodup_nil
  | unreachable fault => exact List.nodup_nil

theorem Path.below_injective (root : Path) : Function.Injective root.below := by
  intro parts others h
  exact List.append_cancel_left (Path.mk.inj h).2

/-- The paths that a scan asks about are all different. -/
theorem nodup_sourcePaths {project : Project} (h : project.disk.NamesDistinct) (o : DiscoveryOptions) :
    ((findSourceFiles o project).map project.root.below).Nodup :=
  (nodup_findSourceFiles h o).map (Path.below_injective project.root)

end SuppressionAudit

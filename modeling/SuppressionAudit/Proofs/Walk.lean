import SuppressionAudit.Proofs.Glob.Pruning
import SuppressionAudit.Proofs.Sorting

/-!
# A walk that prunes

A walk does not go into the directories that the exclusion patterns match. It still finds the files that
a walk through everything would find and that the patterns do not match, provided the patterns match
whatever is below a directory that they match. For one pattern this is settled by its segments; a list
needs it of those of its patterns that do not have it by themselves.
-/

namespace SuppressionAudit

/-- Whatever is below a directory that patterns leave out, they leave out as well. -/
def PrunesOnlyExcluded (globs : List Text) : Prop :=
  ∀ parts below, IsBelowRoot parts → IsBelowRoot below →
    Discovery.isExcluded globs (Path.joinParts parts) true = true →
    Discovery.isExcluded globs (Path.joinParts (parts ++ below)) false = true

namespace Node

mutual

def IsNamed : Node → Prop
  | .directory _ entries => AreNamed entries
  | .link target => IsNamed (target ())
  | _ => True

def AreNamed : List (Text × Node) → Prop
  | [] => True
  | (name, node) :: entries => IsName name ∧ IsNamed node ∧ AreNamed entries

end

end Node

namespace Discovery

def withoutGlobs (o : DiscoveryOptions) : DiscoveryOptions := { o with excludeGlobs := [] }

/-- Whether the patterns keep the file at names below the root. -/
def keepsFile (globs : List Text) (parts : List Text) : Bool :=
  !isExcluded globs (Path.joinParts parts) false

/-! ### What a walk reads of the patterns -/

theorem isExcluded_nil (path : Text) (isDirectory : Bool) : isExcluded [] path isDirectory = false := rfl

theorem skipsName_withoutGlobs (o : DiscoveryOptions) (name : Text) :
    skipsName (withoutGlobs o) name = skipsName o name := rfl

theorem cuts?_withoutGlobs (o : DiscoveryOptions) (name : Text) (node : Node) :
    cuts? (withoutGlobs o) name node = cuts? o name node := by
  cases node <;> rfl

theorem entersDirectory_withoutGlobs (o : DiscoveryOptions) (parts : List Text) (name : Text) :
    entersDirectory (withoutGlobs o) parts name = !o.prunedNames.contains name := by
  simp [entersDirectory, withoutGlobs, isExcluded_nil]

theorem takesFile_eq (o : DiscoveryOptions) (parts : List Text) (name : Text) :
    takesFile o parts name = (takesFile (withoutGlobs o) parts name && keepsFile o.excludeGlobs parts) := by
  simp only [takesFile, withoutGlobs, isExcluded_nil, keepsFile, Bool.not_false, Bool.and_true]
  exact Bool.and_right_comm _ _ _

theorem foundIn_append (events later : List WalkEvent) :
    foundIn (events ++ later) = foundIn events ++ foundIn later := List.filterMap_append

/-! ### Where files are found -/

mutual

theorem found_walkNode (o : DiscoveryOptions) {parts : List Text} {name : Text} :
    ∀ {node : Node}, node.IsNamed → ∀ {file}, file ∈ foundIn (walkNode o parts name node) →
      ∃ below, file = parts ++ below ∧ ∀ n ∈ below, IsName n
  | .file, _, file, hfile => by
    have hparts : file = parts := by
      unfold walkNode at hfile
      split at hfile
      · simpa [foundIn] using hfile
      · simp [foundIn] at hfile
    exact ⟨[], by rw [hparts, List.append_nil], by simp⟩
  | .directory fault entries, hnamed, file, hfile => by
    unfold walkNode at hfile
    split at hfile
    · cases fault with
      | some fault => simp [foundIn] at hfile
      | none =>
        obtain ⟨below, heq, -, hnames⟩ := found_walkEntries o (by simpa [Node.IsNamed] using hnamed) hfile
        exact ⟨below, heq, hnames⟩
    · simp [foundIn] at hfile
  | .link target, hnamed, file, hfile => by
    unfold walkNode at hfile
    split at hfile
    · exact found_walkNode o (by simpa [Node.IsNamed] using hnamed) hfile
    · simp [foundIn] at hfile
  | .deadLink, _, file, hfile => by simp [walkNode, foundIn] at hfile
  | .barredLink _, _, file, hfile => by simp [walkNode, foundIn] at hfile
  | .unreachable _, _, file, hfile => by simp [walkNode, foundIn] at hfile

theorem found_walkEntries (o : DiscoveryOptions) {parts : List Text} :
    ∀ {entries : List (Text × Node)}, Node.AreNamed entries →
      ∀ {file}, file ∈ foundIn (walkEntries o parts entries) →
        ∃ below, file = parts ++ below ∧ below ≠ [] ∧ ∀ n ∈ below, IsName n
  | [], _, file, hfile => by simp [walkEntries, foundIn] at hfile
  | (name, node) :: entries, hnamed, file, hfile => by
    obtain ⟨hname, hnode, hentries⟩ : IsName name ∧ node.IsNamed ∧ Node.AreNamed entries := by
      simpa [Node.AreNamed] using hnamed
    unfold walkEntries at hfile
    cases hcuts : cuts? o name node with
    | some fault => simp [hcuts, foundIn] at hfile
    | none =>
      simp only [hcuts] at hfile
      split at hfile
      · exact found_walkEntries o hentries hfile
      · simp only [foundIn_append, List.mem_append] at hfile
        rcases hfile with hfile | hfile
        · obtain ⟨below, heq, hnames⟩ := found_walkNode o hnode hfile
          refine ⟨name :: below, by rw [heq]; simp, by simp, fun n hn => ?_⟩
          rcases List.mem_cons.1 hn with rfl | hn
          · exact hname
          · exact hnames n hn
        · exact found_walkEntries o hentries hfile

end

theorem isBelowRoot_of_found {o : DiscoveryOptions} {tree : Node} (hnamed : tree.IsNamed) {file : List Text}
    (hfile : file ∈ foundIn (walk o tree)) : IsBelowRoot file := by
  cases tree with
  | directory fault entries =>
    cases fault with
    | some fault => simp [walk, foundIn] at hfile
    | none =>
      obtain ⟨below, rfl, hne, hnames⟩ := found_walkEntries o (by simpa [Node.IsNamed] using hnamed) hfile
      exact ⟨hne, hnames⟩
  | file => simp [walk, foundIn] at hfile
  | link target => simp [walk, foundIn] at hfile
  | deadLink => simp [walk, foundIn] at hfile
  | barredLink fault => simp [walk, foundIn] at hfile
  | unreachable fault => simp [walk, foundIn] at hfile

/-! ### What a walk leaves out -/

theorem filter_found_of_pruned {o : DiscoveryOptions} (hprunes : PrunesOnlyExcluded o.excludeGlobs)
    {parts : List Text} (hparts : IsBelowRoot parts)
    (hpruned : isExcluded o.excludeGlobs (Path.joinParts parts) true = true)
    {entries : List (Text × Node)} (hnamed : Node.AreNamed entries) :
    (foundIn (walkEntries (withoutGlobs o) parts entries)).filter (keepsFile o.excludeGlobs) = [] := by
  refine List.filter_eq_nil_iff.2 fun file hfile => ?_
  obtain ⟨below, rfl, hne, hnames⟩ := found_walkEntries (withoutGlobs o) hnamed hfile
  have hexcluded := hprunes parts below hparts ⟨hne, hnames⟩ hpruned
  simp [keepsFile, hexcluded]

mutual

theorem found_walkNode_eq {o : DiscoveryOptions} (hprunes : PrunesOnlyExcluded o.excludeGlobs)
    {parts : List Text} (hparts : IsBelowRoot parts) (name : Text) :
    ∀ {node : Node}, node.IsNamed →
      foundIn (walkNode o parts name node)
        = (foundIn (walkNode (withoutGlobs o) parts name node)).filter (keepsFile o.excludeGlobs)
  | .file, _ => by
    unfold walkNode
    rw [takesFile_eq]
    cases htakes : takesFile (withoutGlobs o) parts name with
    | false => rfl
    | true => cases hkeeps : keepsFile o.excludeGlobs parts <;> simp [foundIn, hkeeps]
  | .directory fault entries, hnamed => by
    have hentries : Node.AreNamed entries := by simpa [Node.IsNamed] using hnamed
    unfold walkNode
    rw [entersDirectory_withoutGlobs, entersDirectory]
    cases hname : o.prunedNames.contains name with
    | true => rfl
    | false =>
      cases hpruned : isExcluded o.excludeGlobs (Path.joinParts parts) true with
      | true =>
        -- the walk stops here, and what it would find below is not kept
        cases fault with
        | some fault => rfl
        | none => exact (filter_found_of_pruned hprunes hparts hpruned hentries).symm
      | false =>
        cases fault with
        | some fault => rfl
        | none => exact found_walkEntries_eq hprunes hparts.names hentries
  | .link target, hnamed => by
    have htarget : (target ()).IsNamed := by simpa [Node.IsNamed] using hnamed
    unfold walkNode
    have hfollows : (withoutGlobs o).followLinks = o.followLinks := rfl
    rw [hfollows]
    cases o.followLinks with
    | false => rfl
    | true => exact found_walkNode_eq hprunes hparts name htarget
  | .deadLink, _ => by simp [walkNode, foundIn]
  | .barredLink _, _ => by simp [walkNode, foundIn]
  | .unreachable _, _ => by simp [walkNode, foundIn]

theorem found_walkEntries_eq {o : DiscoveryOptions} (hprunes : PrunesOnlyExcluded o.excludeGlobs)
    {parts : List Text} (hparts : ∀ n ∈ parts, IsName n) :
    ∀ {entries : List (Text × Node)}, Node.AreNamed entries →
      foundIn (walkEntries o parts entries)
        = (foundIn (walkEntries (withoutGlobs o) parts entries)).filter (keepsFile o.excludeGlobs)
  | [], _ => by simp [walkEntries, foundIn]
  | (name, node) :: entries, hnamed => by
    obtain ⟨hname, hnode, hentries⟩ : IsName name ∧ node.IsNamed ∧ Node.AreNamed entries := by
      simpa [Node.AreNamed] using hnamed
    have hrest := found_walkEntries_eq hprunes hparts hentries
    unfold walkEntries
    rw [skipsName_withoutGlobs, cuts?_withoutGlobs]
    cases cuts? o name node with
    | some fault => rfl
    | none =>
      cases skipsName o name with
      | true => exact hrest
      | false =>
        have hbelow : IsBelowRoot (parts ++ [name]) := by
          refine ⟨by simp, fun n hn => ?_⟩
          rcases List.mem_append.1 hn with hn | hn
          · exact hparts n hn
          · exact (List.mem_singleton.1 hn) ▸ hname
        have hhere := found_walkNode_eq hprunes hbelow name hnode
        simp only [Bool.false_eq_true, if_false, foundIn_append, List.filter_append]
        rw [hhere, hrest]

end

theorem found_walk_eq {o : DiscoveryOptions} (hprunes : PrunesOnlyExcluded o.excludeGlobs)
    {tree : Node} (hnamed : tree.IsNamed) :
    foundIn (walk o tree)
      = (foundIn (walk (withoutGlobs o) tree)).filter (keepsFile o.excludeGlobs) := by
  cases tree with
  | directory fault entries =>
    cases fault with
    | some fault => rfl
    | none =>
      have hentries : Node.AreNamed entries := by simpa [Node.IsNamed] using hnamed
      exact found_walkEntries_eq hprunes (by simp) hentries
  | file => rfl
  | link target => rfl
  | deadLink => rfl
  | barredLink fault => rfl
  | unreachable fault => rfl

end Discovery

/-! ### The files of a project -/

theorem Path.partsLe_iff (a b : List Text) : Path.partsLe a b = true ↔ ¬ b < a := by
  simp only [Path.partsLe, Bool.not_eq_true', decide_eq_false_iff_not]

theorem Path.partsLe_ranks : Ranks Path.partsLe := by
  constructor
  · intro a b
    rw [Path.partsLe_iff, Path.partsLe_iff]
    exact List.le_total a b
  · intro a b c
    rw [Path.partsLe_iff, Path.partsLe_iff, Path.partsLe_iff]
    exact List.le_trans

theorem findSourceFiles_eq_filter {o : DiscoveryOptions} (hprunes : PrunesOnlyExcluded o.excludeGlobs)
    {project : Project} (hnamed : project.tree.IsNamed) :
    findSourceFiles o project
      = (findSourceFiles (Discovery.withoutGlobs o) project).filter
          (Discovery.keepsFile o.excludeGlobs) := by
  have hfound := Discovery.found_walk_eq hprunes hnamed
  calc findSourceFiles o project
      = stableSort Path.partsLe (Discovery.foundIn (Discovery.walk o project.tree)) := rfl
    _ = stableSort Path.partsLe
          ((Discovery.foundIn (Discovery.walk (Discovery.withoutGlobs o) project.tree)).filter
            (Discovery.keepsFile o.excludeGlobs)) := by rw [hfound]
    _ = (stableSort Path.partsLe
          (Discovery.foundIn (Discovery.walk (Discovery.withoutGlobs o) project.tree))).filter
            (Discovery.keepsFile o.excludeGlobs) := stableSort_filter Path.partsLe_ranks _ _

/-! ### Which patterns prune only what they exclude -/

theorem isExcluded_directory_one_iff {glob : Text} {parts : List Text} (h : IsBelowRoot parts) :
    Discovery.isExcluded [glob] (Path.joinParts parts) true = true ↔
      Glob.Takes glob (parts ++ [[]]) := by
  rw [Discovery.isExcluded_directory_iff h]
  simp

theorem isExcluded_file_one_iff {glob : Text} {parts : List Text} (h : IsBelowRoot parts) :
    Discovery.isExcluded [glob] (Path.joinParts parts) false = true ↔ Glob.Takes glob parts := by
  rw [Discovery.isExcluded_file_iff h]
  simp

/-- A pattern that leaves out a directory leaves out all that is below it, or misses some of it. -/
theorem excludes_below_iff {glob : Text} {parts : List Text} (hparts : IsBelowRoot parts)
    (hpruned : Discovery.isExcluded [glob] (Path.joinParts parts) true = true) :
    (∀ below, IsBelowRoot below →
        Discovery.isExcluded [glob] (Path.joinParts (parts ++ below)) false = true) ↔
      Glob.TakesAllBelow glob := by
  have htakes := (isExcluded_directory_one_iff hparts).1 hpruned
  constructor
  · intro hall
    refine Glob.takesAllBelow_of_takes hparts htakes fun below hbelow => ?_
    exact (isExcluded_file_one_iff (hparts.append hbelow)).1 (hall below hbelow)
  · intro hglob below hbelow
    refine (isExcluded_file_one_iff (hparts.append hbelow)).2 ?_
    exact hglob.takes_below hparts hbelow htakes

/-- Only the patterns that do not go on below every directory depend on the others of a list. -/
theorem prunesOnlyExcluded_iff {globs : List Text} :
    PrunesOnlyExcluded globs ↔ ∀ glob ∈ globs, Glob.TakesAllBelow glob ∨
      ∀ parts below, IsBelowRoot parts → IsBelowRoot below →
        Discovery.isExcluded [glob] (Path.joinParts parts) true = true →
        Discovery.isExcluded globs (Path.joinParts (parts ++ below)) false = true := by
  constructor
  · intro hprunes glob hmem
    refine .inr fun parts below hparts hbelow hpruned => hprunes parts below hparts hbelow ?_
    have htakes := (isExcluded_directory_one_iff hparts).1 hpruned
    exact (Discovery.isExcluded_directory_iff hparts).2 ⟨glob, hmem, htakes⟩
  · intro heach parts below hparts hbelow hpruned
    obtain ⟨glob, hmem, htakes⟩ := (Discovery.isExcluded_directory_iff hparts).1 hpruned
    rcases heach glob hmem with hglob | hothers
    · refine (Discovery.isExcluded_file_iff (hparts.append hbelow)).2 ⟨glob, hmem, ?_⟩
      exact hglob.takes_below hparts hbelow htakes
    · exact hothers parts below hparts hbelow ((isExcluded_directory_one_iff hparts).2 htakes)

/-! ### The patterns that are used when no others are given -/

/-- Whether a pattern is one segment, or a segment that is not empty and a group behind it. -/
def Glob.isShort (glob : Text) : Bool :=
  match segments? glob with
  | some [segment] => !isAnyGroup segment
  | some [segment, group] => segment != [] && group == anyGroup
  | _ => false

theorem Glob.segments_of_isShort {glob : Text} (h : isShort glob = true) :
    (∃ segment, segments? glob = some [segment] ∧ isAnyGroup segment = false) ∨
      ∃ segment, segments? glob = some [segment, anyGroup] ∧ segment ≠ [] := by
  unfold isShort at h
  split at h
  · next segment hglob => exact .inl ⟨segment, hglob, by simpa using h⟩
  · next segment group hglob =>
    simp only [Bool.and_eq_true, bne_iff_ne, ne_eq, beq_iff_eq] at h
    exact .inr ⟨segment, by rw [hglob, h.2], h.1⟩
  · simp at h

theorem not_isExcluded_directory_of_one_segment {glob segment : Text}
    (hglob : Glob.segments? glob = some [segment]) (hone : Glob.isAnyGroup segment = false)
    {parts : List Text} (hparts : IsBelowRoot parts) :
    ¬ Discovery.isExcluded [glob] (Path.joinParts parts) true = true := by
  rw [isExcluded_directory_one_iff hparts]
  rintro ⟨segments, hsegments, hcovers⟩
  obtain rfl := Option.some.inj (hglob.symm.trans hsegments)
  have hnone : ∀ p ∈ [segment], Glob.isAnyGroup p = false := by
    intro p hp
    rw [List.mem_singleton.1 hp]
    exact hone
  have hlen := Cover.length_eq_of_covers hnone hcovers
  have hpos := List.length_pos_iff.2 hparts.ne_nil
  simp only [List.length_append, List.length_singleton] at hlen
  omega

theorem prunesOnlyExcluded_of_short {globs : List Text} (h : ∀ glob ∈ globs, Glob.isShort glob = true) :
    PrunesOnlyExcluded globs := by
  refine prunesOnlyExcluded_iff.2 fun glob hmem => ?_
  rcases Glob.segments_of_isShort (h glob hmem) with ⟨segment, hglob, hone⟩ | ⟨segment, hglob, hne⟩
  · refine .inr fun parts below hparts _ hpruned => ?_
    exact absurd hpruned (not_isExcluded_directory_of_one_segment hglob hone hparts)
  · refine .inl ⟨[segment], [], hglob, ?_, by simp⟩
    simpa using hne.symm

theorem prunesOnlyExcluded_default : PrunesOnlyExcluded Discovery.defaultExcludeGlobs := by
  have hshort : ∀ glob ∈ Discovery.defaultExcludeGlobs, Glob.isShort glob = true := by decide +kernel
  exact prunesOnlyExcluded_of_short hshort

/-! ### Pruning and exclusion -/

/-- A list of patterns leaves out all that is below the directories that it leaves out exactly when each
of its patterns goes on below every directory, or the list makes up for it. Taken alone, a pattern that
leaves out some directory leaves out all that is below it exactly when it goes on below every directory.
With such a list, a walk that prunes finds what a walk through everything finds, less the files that the
patterns leave out. -/
theorem pruning_only_excludes_iff_takes_all_below (globs : List Text) :
    (PrunesOnlyExcluded globs ↔ ∀ glob ∈ globs, Glob.TakesAllBelow glob ∨
      ∀ parts below, IsBelowRoot parts → IsBelowRoot below →
        Discovery.isExcluded [glob] (Path.joinParts parts) true = true →
        Discovery.isExcluded globs (Path.joinParts (parts ++ below)) false = true) ∧
    (∀ glob ∈ globs, ∀ parts, IsBelowRoot parts →
      Discovery.isExcluded [glob] (Path.joinParts parts) true = true →
      ((∀ below, IsBelowRoot below →
          Discovery.isExcluded [glob] (Path.joinParts (parts ++ below)) false = true) ↔
        Glob.TakesAllBelow glob)) ∧
    (PrunesOnlyExcluded globs → ∀ (o : DiscoveryOptions) (project : Project), project.tree.IsNamed →
      findSourceFiles { o with excludeGlobs := globs } project
        = (findSourceFiles { o with excludeGlobs := [] } project).filter (Discovery.keepsFile globs)) := by
  refine ⟨prunesOnlyExcluded_iff, ?_, ?_⟩
  · intro glob _ parts hparts hpruned
    exact excludes_below_iff hparts hpruned
  · intro hprunes o project hnamed
    have hwith : PrunesOnlyExcluded { o with excludeGlobs := globs }.excludeGlobs := hprunes
    exact findSourceFiles_eq_filter hwith hnamed

def deepProject : Project :=
  ⟨⟨['/'], []⟩, ⟨.directory none none [(['a'], .directory none none [(['b'], .directory none none
    [(['c', '.', 'j', 's'], .file (.ok []))])])]⟩⟩

theorem deepProject_tree :
    deepProject.tree = .directory none [(['a'], .directory none [(['b'], .directory none
      [(['c', '.', 'j', 's'], .file)])])] := rfl

theorem deepProject_isNamed : deepProject.tree.IsNamed := by
  have ha : IsName ['a'] := ⟨by decide, by decide, by decide⟩
  have hb : IsName ['b'] := ⟨by decide, by decide, by decide⟩
  have hc : IsName ['c', '.', 'j', 's'] := ⟨by decide, by decide, by decide⟩
  rw [deepProject_tree]
  simp only [Node.IsNamed, Node.AreNamed, and_true]
  exact ⟨ha, hb, hc⟩

theorem pruning_only_excludes_usual :
    "dist/**".toList ∈ Discovery.defaultExcludeGlobs ∧ IsBelowRoot ["dist".toList] ∧
    Discovery.isExcluded ["dist/**".toList] (Path.joinParts ["dist".toList]) true = true ∧
    (∀ below, IsBelowRoot below →
      Discovery.isExcluded ["dist/**".toList] (Path.joinParts (["dist".toList] ++ below)) false = true) ∧
    PrunesOnlyExcluded Discovery.defaultExcludeGlobs ∧ deepProject.tree.IsNamed ∧
    findSourceFiles Discovery.defaultOptions deepProject
      = (findSourceFiles { Discovery.defaultOptions with excludeGlobs := [] } deepProject).filter
          (Discovery.keepsFile Discovery.defaultExcludeGlobs) := by
  have hmem : "dist/**".toList ∈ Discovery.defaultExcludeGlobs := by decide +kernel
  have hname : IsName "dist".toList := ⟨by decide, by decide, by decide⟩
  have hdist : IsBelowRoot ["dist".toList] := hname.repeated (by decide : 1 ≠ 0)
  have hpruned : Discovery.isExcluded ["dist/**".toList] (Path.joinParts ["dist".toList]) true = true := by
    decide +kernel
  have hglob : Glob.TakesAllBelow "dist/**".toList :=
    ⟨["dist".toList], [], by decide +kernel, by decide, by simp⟩
  obtain ⟨-, hone, hwalk⟩ := pruning_only_excludes_iff_takes_all_below Discovery.defaultExcludeGlobs
  have hbelow := (hone _ hmem _ hdist hpruned).2 hglob
  have hfound := hwalk prunesOnlyExcluded_default Discovery.defaultOptions deepProject deepProject_isNamed
  exact ⟨hmem, hdist, hpruned, hbelow, prunesOnlyExcluded_default, deepProject_isNamed, hfound⟩

/-- The pattern `a/*` matches the directory `a`, but no file two directories down: the walk misses it. -/
theorem star_prunes_unexcluded_file :
    ¬ PrunesOnlyExcluded ["a/*".toList] ∧
      findSourceFiles { Discovery.defaultOptions with excludeGlobs := ["a/*".toList] } deepProject
        ≠ (findSourceFiles { Discovery.defaultOptions with excludeGlobs := [] } deepProject).filter
            (Discovery.keepsFile ["a/*".toList]) := by
  constructor
  · intro hprunes
    have ha : IsName ['a'] := ⟨by decide, by decide, by decide⟩
    have hb : IsName ['b'] := ⟨by decide, by decide, by decide⟩
    have hfront : IsBelowRoot [['a']] := ha.repeated (by decide : 1 ≠ 0)
    have hbelow : IsBelowRoot [['b'], ['b']] := hb.repeated (by decide : 2 ≠ 0)
    have hlost := hprunes _ _ hfront hbelow (by decide +kernel)
    exact absurd hlost (by decide +kernel)
  · decide +kernel

end SuppressionAudit

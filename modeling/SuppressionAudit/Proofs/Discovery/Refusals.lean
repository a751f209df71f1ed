import SuppressionAudit.Proofs.Discovery.Found

/-!
# Listings that are not finished

A directory that refuses to be listed costs what lies below it and nothing else, wherever it stands and
whatever is listed beside it: the files found are those of the tree in which it is empty. A walk warns once
of each directory that it enters and whose listing it does not finish, and of nothing else. Besides the
directories that refuse, these are the ones in which it meets an entry that cannot be looked up.
-/

namespace SuppressionAudit

/-! ### Trees without what is refused -/

namespace Node

mutual

/-- The tree in which the directories that refuse to be listed are empty; links lead where they led. -/
def emptied : Node → Node
  | .directory (some _) _ => .directory none []
  | .directory none entries => .directory none (emptiedIn entries)
  | .link target => .link fun _ => emptied (target ())
  | node => node

def emptiedIn : List (Text × Node) → List (Text × Node)
  | [] => []
  | (name, node) :: entries => (name, emptied node) :: emptiedIn entries

end

end Node

namespace Discovery

variable {o : DiscoveryOptions} {name : Text} {parts : List Text} {root node : Node}
  {entries : List (Text × Node)}

theorem cuts?_emptied : cuts? o name node.emptied = cuts? o name node := by
  cases node with
  | directory fault entries => cases fault <;> rfl
  | file => rfl
  | link target => rfl
  | deadLink => rfl
  | barredLink fault => rfl
  | unreachable fault => rfl

mutual

theorem foundIn_walkNode_emptied (parts : List Text) (name : Text) :
    ∀ node : Node, foundIn (walkNode o parts name node.emptied) = foundIn (walkNode o parts name node)
  | .file => rfl
  | .directory (some fault) entries => by
    unfold Node.emptied walkNode
    cases entersDirectory o parts name <;> rfl
  | .directory none entries => by
    have hinside := foundIn_walkEntries_emptied parts entries
    unfold Node.emptied walkNode
    cases entersDirectory o parts name with
    | false => rfl
    | true => exact hinside
  | .link target => by
    have htarget := foundIn_walkNode_emptied parts name (target ())
    unfold Node.emptied walkNode
    cases o.followLinks with
    | false => rfl
    | true => exact htarget
  | .deadLink => rfl
  | .barredLink _ => rfl
  | .unreachable _ => rfl

theorem foundIn_walkEntries_emptied (parts : List Text) :
    ∀ entries : List (Text × Node),
      foundIn (walkEntries o parts (Node.emptiedIn entries)) = foundIn (walkEntries o parts entries)
  | [] => rfl
  | (name, node) :: entries => by
    have hhere := foundIn_walkNode_emptied (parts ++ [name]) name node
    have hlater := foundIn_walkEntries_emptied parts entries
    unfold Node.emptiedIn walkEntries
    rw [cuts?_emptied]
    cases cuts? o name node with
    | some fault => rfl
    | none =>
      cases skipsName o name with
      | true => exact hlater
      | false =>
        simp only [Bool.false_eq_true, if_false, foundIn_append]
        rw [hhere, hlater]

end

theorem filesIn_emptied (o : DiscoveryOptions) (root : Node) : filesIn o root.emptied = filesIn o root := by
  have hwalk : foundIn (walk o root.emptied) = foundIn (walk o root) := by
    cases root with
    | directory fault entries =>
      cases fault with
      | some fault => rfl
      | none => exact foundIn_walkEntries_emptied [] entries
    | file => rfl
    | link target => rfl
    | deadLink => rfl
    | barredLink fault => rfl
    | unreachable fault => rfl
  rw [filesIn, filesIn, hwalk]

/-! ### Refusals -/

/-- A listing that was not finished: the directory, and the path at which it was refused. -/
structure Refusal where
  directory : List Text
  path : List Text
  fault : Fault
deriving DecidableEq

def refusals (o : DiscoveryOptions) (root : Node) : List Refusal :=
  (walk o root).filterMap fun
    | .found _ => none
    | .refused directory path fault => some ⟨directory, path, fault⟩

def Refusal.warning (project : Project) (refusal : Refusal) : Notice :=
  .listingRefused (project.pathText refusal.directory) (project.pathText refusal.path) refusal.fault

/-- The walk enters the directory at names below the root, if no listing on the way ends too soon: it can be
told from the names on the way, and from the links and the directories that lie there. -/
structure Entered (o : DiscoveryOptions) (root : Node) (parts : List Text) : Prop where
  visible : o.includeHidden = false → ∀ name ∈ parts, isHidden name = false
  unlinked : o.followLinks = false → ∀ front, front <+: parts → ∀ found, root.at? front = some found →
    found.isLink = false
  listable : ∀ front, front <+: parts → front ≠ parts →
    ∃ found entries, root.at? front = some found ∧ found.resolved = .directory none entries
  entered : ∀ front, front <+: parts → front ≠ [] →
    lastName front ∉ o.prunedNames ∧ isExcluded o.excludeGlobs (Path.joinParts front) true = false

/-- Why the listing of a directory is not finished: the directory refuses to be listed, or one of its entries,
the first such, ends the listing. -/
inductive Refuses (o : DiscoveryOptions) (root : Node) : Refusal → Prop
  | unlisted {directory : List Text} {found : Node} {fault : Fault} {entries : List (Text × Node)} :
    root.at? directory = some found → found.resolved = .directory (some fault) entries →
      Refuses o root ⟨directory, directory, fault⟩
  | cut {directory : List Text} {found : Node} {entries : List (Text × Node)} {name : Text} {fault : Fault} :
    root.at? directory = some found → found.resolved = .directory none entries →
      cutIn? o entries = some (name, fault) → Refuses o root ⟨directory, directory ++ [name], fault⟩

theorem mem_refusals_iff {refusal : Refusal} : refusal ∈ refusals o root ↔
    .refused refusal.directory refusal.path refusal.fault ∈ walk o root := by
  simp only [refusals, List.mem_filterMap]
  constructor
  · rintro ⟨event, hevent, heq⟩
    cases event with
    | found parts => exact absurd heq (Option.some_ne_none refusal).symm
    | refused directory path fault => exact Option.some.inj heq ▸ hevent
  · intro h
    exact ⟨_, h, rfl⟩

theorem refusalsIn_eq (project : Project) (o : DiscoveryOptions) (root : Node) :
    refusalsIn project (walk o root) = (refusals o root).map (Refusal.warning project) := by
  rw [refusalsIn, refusals, List.map_filterMap]
  congr 1
  funext event
  cases event <;> rfl

/-! ### Entered directories -/

theorem entered_iff {last : Node} (hlast : root.at? parts = some last) : Entered o root parts ↔
    Passes o [] root parts ∧ follows o last = true ∧ goesInto o parts = true := by
  constructor
  · intro h
    refine ⟨⟨?_, ?_, h.listable, ?_⟩, ?_, ?_⟩
    · intro name hname
      exact skipsName_eq_false_iff.2 fun hhidden => h.visible hhidden name hname
    · intro front hfront _ found hfound
      exact follows_iff.2 fun hlinks => h.unlinked hlinks front hfront found hfound
    · intro front hfront _
      exact goesInto_iff.2 (h.entered front hfront)
    · exact follows_iff.2 fun hlinks => h.unlinked hlinks parts List.prefix_rfl last hlast
    · exact goesInto_iff.2 (h.entered parts List.prefix_rfl)
  · rintro ⟨hpasses, hfollows, henters⟩
    refine ⟨?_, ?_, hpasses.listable, ?_⟩
    · intro hhidden name hname
      exact skipsName_eq_false_iff.1 (hpasses.visible name hname) hhidden
    · intro hlinks front hfront found hfound
      by_cases hend : front = parts
      · obtain rfl := Option.some.inj (hlast.symm.trans (hend ▸ hfound))
        exact follows_iff.1 hfollows hlinks
      · exact follows_iff.1 (hpasses.followed front hfront hend found hfound) hlinks
    · intro front hfront hroot
      by_cases hend : front = parts
      · exact goesInto_iff.1 (hend ▸ henters) hroot
      · exact goesInto_iff.1 (hpasses.entered front hfront hend) hroot

/-! ### What is refused -/

variable {fault : Option Fault}

theorem mem_refusals_iff_refuses (h : (Node.directory fault entries).NamesDistinct) {refusal : Refusal} :
    refusal ∈ refusals o (.directory fault entries) ↔
      Entered o (.directory fault entries) refusal.directory ∧
        Uncut o (.directory fault entries) refusal.directory ∧ Refuses o (.directory fault entries) refusal := by
  rw [mem_refusals_iff, mem_walk_iff h]
  constructor
  · rintro ⟨below, last, ⟨hpasses, huncut, hlast⟩, hevent⟩
    obtain ⟨directory, path, reason⟩ := refusal
    obtain ⟨hbelow, hfollows, henters, hreason⟩ := refused_mem_arrival_iff.1 hevent
    obtain rfl : directory = below := hbelow
    refine ⟨(entered_iff hlast).2 ⟨hpasses, hfollows, henters⟩, huncut, ?_⟩
    rcases hreason with ⟨hpath, listed, hdirectory⟩ | ⟨listed, name, hpath, hdirectory, hcut⟩
    · obtain rfl : path = directory := hpath
      exact .unlisted hlast hdirectory
    · obtain rfl : path = directory ++ [name] := hpath
      exact .cut hlast hdirectory hcut
  · rintro ⟨hentered, huncut, hrefuses⟩
    cases hrefuses with
    | @unlisted directory found reason listed hfound hdirectory =>
      obtain ⟨hpasses, hfollows, henters⟩ := (entered_iff hfound).1 hentered
      exact ⟨directory, found, ⟨hpasses, huncut, hfound⟩,
        refused_mem_arrival_iff.2 ⟨rfl, hfollows, henters, .inl ⟨rfl, listed, hdirectory⟩⟩⟩
    | @cut directory found listed name reason hfound hdirectory hcut =>
      obtain ⟨hpasses, hfollows, henters⟩ := (entered_iff hfound).1 hentered
      exact ⟨directory, found, ⟨hpasses, huncut, hfound⟩,
        refused_mem_arrival_iff.2 ⟨rfl, hfollows, henters, .inr ⟨listed, name, rfl, hdirectory, hcut⟩⟩⟩

/-- The listing of a directory ends for one reason only. -/
theorem Refuses.unique {refusal other : Refusal} (h : Refuses o root refusal) (h' : Refuses o root other)
    (heq : refusal.directory = other.directory) : refusal = other := by
  cases h with
  | unlisted hfound hdirectory =>
    cases h' with
    | unlisted hother hlisted =>
      obtain rfl := heq
      obtain rfl := Option.some.inj (hfound.symm.trans hother)
      obtain ⟨hfault, -⟩ := Node.directory.inj (hdirectory.symm.trans hlisted)
      obtain rfl := Option.some.inj hfault
      rfl
    | cut hother hlisted =>
      obtain rfl := heq
      obtain rfl := Option.some.inj (hfound.symm.trans hother)
      exact absurd (Node.directory.inj (hdirectory.symm.trans hlisted)).1 (Option.some_ne_none _)
  | cut hfound hdirectory hcut =>
    cases h' with
    | unlisted hother hlisted =>
      obtain rfl := heq
      obtain rfl := Option.some.inj (hfound.symm.trans hother)
      exact absurd (Node.directory.inj (hlisted.symm.trans hdirectory)).1 (Option.some_ne_none _)
    | cut hother hlisted hcutOther =>
      obtain rfl := heq
      obtain rfl := Option.some.inj (hfound.symm.trans hother)
      obtain ⟨-, rfl⟩ := Node.directory.inj (hdirectory.symm.trans hlisted)
      obtain ⟨rfl, rfl⟩ := Prod.mk.inj (Option.some.inj (hcut.symm.trans hcutOther))
      rfl

theorem nodup_refusals (h : (Node.directory fault entries).NamesDistinct) :
    ((refusals o (.directory fault entries)).map Refusal.directory).Nodup := by
  have honce : (refusals o (.directory fault entries)).Nodup := by
    refine List.Nodup.filterMap (fun event other refusal hevent hother => ?_) (nodup_walk h)
    cases event with
    | found parts => simp at hevent
    | refused directory path reason =>
      cases other with
      | found parts => simp at hother
      | refused next place barrier =>
        have heq := (Option.some.inj hevent).trans (Option.some.inj hother).symm
        obtain ⟨rfl, rfl, rfl⟩ := Refusal.mk.inj heq
        rfl
  refine honce.map_on fun refusal hrefusal other hother heq => ?_
  exact ((mem_refusals_iff_refuses h).1 hrefusal).2.2.unique ((mem_refusals_iff_refuses h).1 hother).2.2 heq

theorem cutIn?_of_areClear {entries : List (Text × Node)} (h : AreClear o entries) : cutIn? o entries = none := by
  induction entries with
  | nil => rfl
  | cons entry entries ih =>
    obtain ⟨name, node⟩ := entry
    obtain ⟨hcuts, -, hrest⟩ : cuts? o name node = none ∧ _ ∧ AreClear o entries := by simpa [AreClear] using h
    rw [cutIn?, hcuts]
    exact ih hrest

end Discovery

open Discovery

/-! ### Unlisted directories -/

/-- The files found are those of the tree in which the directories that refuse to be listed are empty. The
warnings are one for each directory that is entered and whose listing is not finished. If no entry that the
walk may come by ends a listing, these are the directories entered that refuse to be listed. -/
theorem refused_listings_cost_their_contents (o : DiscoveryOptions) (fault : Option Fault)
    (entries : List (Text × Node)) (h : (Node.directory fault entries).NamesDistinct) :
    (∀ project : Project, project.tree = .directory fault entries →
      findSourceFiles o project = filesIn o (Node.directory fault entries).emptied ∧
      (discover o project).2.filter (fun notice => notice.level = .warning)
        = (refusals o (.directory fault entries)).map (Refusal.warning project)) ∧
    ((refusals o (.directory fault entries)).map Refusal.directory).Nodup ∧
    (∀ refusal, refusal ∈ refusals o (.directory fault entries) ↔
      Entered o (.directory fault entries) refusal.directory ∧
        Uncut o (.directory fault entries) refusal.directory ∧ Refuses o (.directory fault entries) refusal) ∧
    (Clear o (.directory fault entries) →
      ∀ refusal, refusal ∈ refusals o (.directory fault entries) ↔
        Entered o (.directory fault entries) refusal.directory ∧ refusal.path = refusal.directory ∧
          ∃ found listed, (Node.directory fault entries).at? refusal.directory = some found ∧
            found.resolved = .directory (some refusal.fault) listed) := by
  refine ⟨?_, nodup_refusals h, fun refusal => mem_refusals_iff_refuses h, ?_⟩
  · intro project htree
    have hwarnings : ∀ refusal, (Refusal.warning project refusal).level = .warning := fun _ => rfl
    rw [filesIn_emptied, findSourceFiles_eq, htree]
    refine ⟨rfl, ?_⟩
    simp only [discover, htree, refusalsIn_eq, List.filter_append, List.filter_map, Function.comp_def, hwarnings]
    simp [Notice.level]
  · intro hclear refusal
    rw [mem_refusals_iff_refuses h]
    constructor
    · rintro ⟨hentered, -, hrefuses⟩
      cases hrefuses with
      | unlisted hfound hdirectory => exact ⟨hentered, rfl, _, _, hfound, hdirectory⟩
      | cut hfound hdirectory hcut =>
        obtain ⟨hpasses, hfollows, -⟩ := (entered_iff hfound).1 hentered
        have hlisted := (hclear.ahead hpasses hfound).2.listed hfollows hdirectory
        exact absurd (hcut.symm.trans (cutIn?_of_areClear hlisted)) (Option.some_ne_none _)
    · rintro ⟨hentered, hpath, found, listed, hfound, hdirectory⟩
      obtain ⟨hpasses, -, -⟩ := (entered_iff hfound).1 hentered
      refine ⟨hentered, (hclear.ahead hpasses hfound).1, ?_⟩
      obtain ⟨directory, path, reason⟩ := refusal
      obtain rfl : path = directory := hpath
      exact .unlisted hfound hdirectory

theorem refused_listings_cost_their_contents_mixed :
    (Node.directory none mixedEntries).NamesDistinct ∧ Clear defaultOptions (.directory none mixedEntries) ∧
    filesIn defaultOptions (Node.directory none mixedEntries).emptied
      = [["src".toList, "a.js".toList], ["src".toList, "b.ts".toList]] ∧
    refusals defaultOptions (.directory none mixedEntries)
      = [⟨["lib".toList, "denied".toList], ["lib".toList, "denied".toList], .permissionDenied⟩] ∧
    ∀ refusal, refusal ∈ refusals defaultOptions (.directory none mixedEntries) ↔
      Entered defaultOptions (.directory none mixedEntries) refusal.directory ∧
        refusal.path = refusal.directory ∧
          ∃ found listed, (Node.directory none mixedEntries).at? refusal.directory = some found ∧
            found.resolved = .directory (some refusal.fault) listed := by
  have hdistinct : (Node.directory none mixedEntries).NamesDistinct := by
    simp only [mixedEntries, Node.NamesDistinct, Node.EachDistinct, and_true, true_and]
    decide
  obtain ⟨-, -, -, hmem⟩ := refused_listings_cost_their_contents defaultOptions none mixedEntries hdistinct
  exact ⟨hdistinct, clear_mixedEntries, by decide +kernel, by decide +kernel, hmem clear_mixedEntries⟩

/-! ### A warning of a directory that is listed -/

/-- A directory with nothing but a link whose target has a name that is too long. -/
def loneLinkProject : Project :=
  ⟨⟨['/'], []⟩, ⟨.directory none none [("a".toList, .link (List.replicate 256 'x'))]⟩⟩

set_option maxRecDepth 8000 in
theorem loneLinkProject_tree :
    loneLinkProject.tree = .directory none [("a".toList, .barredLink .nameTooLong)] := by
  rfl

/-- A walk that follows links warns of a barred one, although no directory refuses to be listed. -/
theorem barred_link_warns_of_listed_directory :
    (∀ parts found fault listed, loneLinkProject.tree.at? parts = some found →
      found.resolved = .directory fault listed → fault = none) ∧
    (discover followingLinks loneLinkProject).2.filter (fun notice => notice.level = .warning)
      = [.listingRefused "/".toList "/a".toList .nameTooLong] := by
  rw [discover, loneLinkProject_tree]
  refine ⟨?_, by decide +kernel⟩
  intro parts found fault listed hfound hdirectory
  rcases parts with - | ⟨name, rest⟩
  · obtain rfl := Option.some.inj hfound
    exact (Node.directory.inj hdirectory).1.symm
  · -- the link is all that lies below the root
    rw [Node.at?_cons, Node.childAt?_of_directory (Node.resolved_directory _ _)] at hfound
    obtain ⟨child, hchild, hrest⟩ := Option.bind_eq_some_iff.1 hfound
    obtain ⟨-, rfl⟩ := Prod.mk.inj (List.mem_singleton.1 (Node.mem_of_entry?_eq_some hchild))
    cases rest with
    | nil =>
      obtain rfl := Option.some.inj hrest
      simp [Node.resolved] at hdirectory
    | cons next rest => simp [Node.at?, Node.childAt?, Node.resolved] at hrest

end SuppressionAudit

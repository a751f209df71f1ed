import Mathlib.Data.List.Sort
import SuppressionAudit.Proofs.Discovery.AlongPaths

/-!
# The source files of a tree

Which files are found, in the words of the tree alone, and in which order. The files stand in the order
of their paths, each once. Unless the walk meets an entry that cannot be looked up, the files are exactly
the ones described, and the order of the listings is of no account.
-/

namespace SuppressionAudit

namespace Discovery

/-- The source files of a tree, in order. -/
def filesIn (o : DiscoveryOptions) (root : Node) : List (List Text) :=
  stableSort Path.partsLe (foundIn (walk o root))

/-- A source file at names below the root: no name is hidden, no link is on the way and none at the end,
where hidden names and links are not taken; every directory on the way can be listed, and none but the root
has a pruned name or is excluded; the file has one of the suffixes, is not excluded, and is kept. -/
structure Found (o : DiscoveryOptions) (root : Node) (parts : List Text) : Prop where
  ne_nil : parts ≠ []
  visible : o.includeHidden = false → ∀ name ∈ parts, isHidden name = false
  unlinked : o.followLinks = false → ∀ front, front <+: parts → ∀ found, root.at? front = some found →
    found.isLink = false
  listable : ∀ front, front <+: parts → front ≠ parts →
    ∃ found entries, root.at? front = some found ∧ found.resolved = .directory none entries
  entered : ∀ front, front <+: parts → front ≠ [] → front ≠ parts →
    lastName front ∉ o.prunedNames ∧ isExcluded o.excludeGlobs (Path.joinParts front) true = false
  file : ∃ found, root.at? parts = some found ∧ found.resolved = .file
  extension : hasExtension o.extensions (lastName parts) = true
  unexcluded : isExcluded o.excludeGlobs (Path.joinParts parts) false = false
  kept : o.keep parts = true

theorem findSourceFiles_eq (o : DiscoveryOptions) (project : Project) :
    findSourceFiles o project = filesIn o project.tree := rfl

variable {o : DiscoveryOptions}

/-! ### Order -/

theorem lt_of_partsLe {a b : List Text} (hle : Path.partsLe a b = true) (hne : a ≠ b) : a < b := by
  by_contra hlt
  exact hne (List.le_antisymm ((Path.partsLe_iff a b).1 hle) hlt)

theorem filesIn_increasing {fault : Option Fault} {entries : List (Text × Node)}
    (h : (Node.directory fault entries).NamesDistinct) :
    (filesIn o (.directory fault entries)).Pairwise (· < ·) := by
  have hfound : (foundIn (walk o (.directory fault entries))).Nodup := nodup_foundIn (nodup_walk h)
  have honce : (filesIn o (.directory fault entries)).Nodup := (stableSort_perm _ _).nodup_iff.2 hfound
  have hordered := (stablySorts_stableSort Path.partsLe_ranks (foundIn (walk o (.directory fault entries)))).ordered
  exact (hordered.and honce).imp fun hboth => lt_of_partsLe hboth.1 hboth.2

theorem eq_of_increasing {xs ys : List (List Text)} (hx : xs.Pairwise (· < ·)) (hy : ys.Pairwise (· < ·))
    (h : ∀ parts, parts ∈ xs ↔ parts ∈ ys) : xs = ys := by
  have : Std.Irrefl fun a b : List Text => a < b := ⟨fun a => List.lt_irrefl a⟩
  have : Std.Antisymm fun a b : List Text => a < b := ⟨fun a b hab hba => absurd hab (List.lt_asymm hba)⟩
  exact List.Pairwise.eq_of_mem_iff hx hy h

/-! ### Exactly the files that are found -/

theorem found_iff {root : Node} {parts : List Text} :
    Found o root parts ↔ parts ≠ [] ∧ Passes o [] root parts ∧
      ∃ last, root.at? parts = some last ∧ .found parts ∈ arrival o parts last := by
  have htakes : takesFile o parts (lastName parts) = true ↔
      hasExtension o.extensions (lastName parts) = true ∧
        isExcluded o.excludeGlobs (Path.joinParts parts) false = false ∧ o.keep parts = true := by
    simp [takesFile, and_assoc]
  constructor
  · intro h
    obtain ⟨last, hlast, hfile⟩ := h.file
    refine ⟨h.ne_nil, ⟨?_, ?_, h.listable, ?_⟩, last, hlast, found_mem_arrival_iff.2 ⟨rfl, ?_, hfile, ?_⟩⟩
    · intro name hname
      exact skipsName_eq_false_iff.2 fun hhidden => h.visible hhidden name hname
    · intro front hfront _ found hfound
      exact follows_iff.2 fun hlinks => h.unlinked hlinks front hfront found hfound
    · intro front hfront hne
      exact goesInto_iff.2 fun hroot => h.entered front hfront hroot hne
    · exact follows_iff.2 fun hlinks => h.unlinked hlinks parts List.prefix_rfl last hlast
    · exact htakes.2 ⟨h.extension, h.unexcluded, h.kept⟩
  · rintro ⟨hne, hpasses, last, hlast, hfound⟩
    obtain ⟨-, hfollows, hfile, htaken⟩ := found_mem_arrival_iff.1 hfound
    obtain ⟨hextension, hunexcluded, hkept⟩ := htakes.1 htaken
    refine ⟨hne, ?_, ?_, hpasses.listable, ?_, ⟨last, hlast, hfile⟩, hextension, hunexcluded, hkept⟩
    · intro hhidden name hname
      exact skipsName_eq_false_iff.1 (hpasses.visible name hname) hhidden
    · intro hlinks front hfront found hat
      by_cases hend : front = parts
      · obtain rfl := Option.some.inj (hlast.symm.trans (hend ▸ hat))
        exact follows_iff.1 hfollows hlinks
      · exact follows_iff.1 (hpasses.followed front hfront hend found hat) hlinks
    · intro front hfront hroot hproper
      exact goesInto_iff.1 (hpasses.entered front hfront hproper) hroot

theorem mem_filesIn {fault : Option Fault} {entries : List (Text × Node)}
    (h : (Node.directory fault entries).NamesDistinct) {parts : List Text} :
    parts ∈ filesIn o (.directory fault entries) ↔
      Found o (.directory fault entries) parts ∧ Uncut o (.directory fault entries) parts := by
  unfold filesIn
  rw [(stableSort_perm _ _).mem_iff, mem_foundIn_iff, mem_walk_iff h, found_iff]
  constructor
  · rintro ⟨below, last, ⟨hpasses, huncut, hlast⟩, hfound⟩
    obtain ⟨rfl, -, hfile, -⟩ := found_mem_arrival_iff.1 hfound
    have hne : parts ≠ [] := by
      -- at the root there is a directory
      rintro rfl
      obtain rfl := Option.some.inj hlast
      rw [Node.resolved_directory] at hfile
      exact Node.noConfusion hfile
    exact ⟨⟨hne, hpasses, last, hlast, hfound⟩, huncut⟩
  · rintro ⟨⟨-, hpasses, last, hlast, hfound⟩, huncut⟩
    exact ⟨parts, last, ⟨hpasses, huncut, hlast⟩, hfound⟩

/-! ### Listings that end too soon -/

mutual

/-- No entry that the walk may come by ends the listing that it stands in. -/
def Clear (o : DiscoveryOptions) : Node → Prop
  | .directory none entries => AreClear o entries
  | .link target => o.followLinks = true → Clear o (target ())
  | _ => True

def AreClear (o : DiscoveryOptions) : List (Text × Node) → Prop
  | [] => True
  | (name, node) :: entries =>
    cuts? o name node = none ∧ (skipsName o name = false → Clear o node) ∧ AreClear o entries

end

theorem areClear_iff {entries : List (Text × Node)} : AreClear o entries ↔ ∀ entry ∈ entries,
    cuts? o entry.1 entry.2 = none ∧ (skipsName o entry.1 = false → Clear o entry.2) := by
  induction entries with
  | nil => simp [AreClear]
  | cons entry entries ih =>
    obtain ⟨name, node⟩ := entry
    simp [AreClear, ih, and_assoc]

theorem Clear.listed : ∀ {node : Node} {entries : List (Text × Node)}, Clear o node → follows o node = true →
    node.resolved = .directory none entries → AreClear o entries
  | .directory (some _) _, entries, _, _, hdirectory => by
    rw [Node.resolved_directory] at hdirectory
    exact absurd (Node.directory.inj hdirectory).1 (Option.some_ne_none _)
  | .directory none _, entries, h, _, hdirectory => by
    rw [Node.resolved_directory] at hdirectory
    obtain ⟨-, rfl⟩ := Node.directory.inj hdirectory
    simpa [Clear] using h
  | .link target, entries, h, hfollows, hdirectory => by
    have hlinks : o.followLinks = true := by simpa [follows, Node.isLink] using hfollows
    have htarget : o.followLinks = true → Clear o (target ()) := by simpa [Clear] using h
    rw [Node.resolved_link] at hdirectory
    exact (htarget hlinks).listed (by simp [follows, hlinks]) hdirectory
  | .file, entries, _, _, hdirectory => by simp [Node.resolved] at hdirectory
  | .deadLink, entries, _, _, hdirectory => by simp [Node.resolved] at hdirectory
  | .barredLink _, entries, _, _, hdirectory => by simp [Node.resolved] at hdirectory
  | .unreachable _, entries, _, _, hdirectory => by simp [Node.resolved] at hdirectory

theorem endsBefore_of_areClear {name : Text} {entries : List (Text × Node)} (h : AreClear o entries) :
    endsBefore o name entries = false := by
  induction entries with
  | nil => rfl
  | cons entry entries ih =>
    obtain ⟨other, node⟩ := entry
    obtain ⟨hcuts, -, hrest⟩ : cuts? o other node = none ∧ _ ∧ AreClear o entries := by simpa [AreClear] using h
    rw [endsBefore, hcuts, ih hrest]
    simp

/-- On a path that the walk can pass, nothing ends a listing of a clear tree. -/
theorem Clear.ahead {base parts : List Text} {node last : Node} (h : Clear o node)
    (hpasses : Passes o base node parts) (hlast : node.at? parts = some last) :
    Uncut o node parts ∧ Clear o last := by
  induction parts generalizing base node with
  | nil =>
    obtain rfl := Option.some.inj hlast
    exact ⟨uncut_nil, h⟩
  | cons name rest ih =>
    rw [Node.at?_cons] at hlast
    obtain ⟨child, hchild, hlast⟩ := Option.bind_eq_some_iff.1 hlast
    obtain ⟨hskips, hfollows, -, ⟨entries, hdirectory⟩, hbelow⟩ := (passes_cons hchild).1 hpasses
    have hentries := h.listed hfollows hdirectory
    have hmem : (name, child) ∈ entries := by
      rw [Node.childAt?_of_directory hdirectory] at hchild
      exact Node.mem_of_entry?_eq_some hchild
    obtain ⟨huncut, hclear⟩ := ih ((areClear_iff.1 hentries _ hmem).2 hskips) hbelow hlast
    refine ⟨(uncut_cons hchild).2 ⟨fun fault listed hlisted => ?_, huncut⟩, hclear⟩
    rw [hdirectory] at hlisted
    obtain ⟨-, rfl⟩ := Node.directory.inj hlisted
    exact endsBefore_of_areClear hentries

theorem Found.uncut {root : Node} {parts : List Text} (h : Found o root parts) (hclear : Clear o root) :
    Uncut o root parts := by
  obtain ⟨-, hpasses, last, hlast, -⟩ := found_iff.1 h
  exact (hclear.ahead hpasses hlast).1

theorem cuts?_of_relists {name : Text} {node other : Node} (h : Node.Relists node other) :
    cuts? o name other = cuts? o name node := by
  cases h <;> rfl

mutual

theorem Clear.of_relists : ∀ {node other : Node}, Node.Relists node other → Clear o node → Clear o other
  | .file, _, h, _ => by cases h; simp [Clear]
  | .directory (some _) _, _, h, _ => by cases h; simp [Clear]
  | .directory none entries, _, h, hclear => by
    cases h with
    | @directory _ _ relisted listed heach hperm =>
      have hentries : AreClear o entries := by simpa [Clear] using hclear
      have hrelisted := areClear_iff.1 (AreClear.of_relists heach hentries)
      rw [Clear, areClear_iff]
      exact fun entry hentry => hrelisted entry (hperm.mem_iff.2 hentry)
  | .link target, _, h, hclear => by
    cases h with
    | link htarget =>
      have hfollowed : o.followLinks = true → Clear o (target ()) := by simpa [Clear] using hclear
      rw [Clear]
      exact fun hlinks => Clear.of_relists htarget (hfollowed hlinks)
  | .deadLink, _, h, _ => by cases h; simp [Clear]
  | .barredLink _, _, h, _ => by cases h; simp [Clear]
  | .unreachable _, _, h, _ => by cases h; simp [Clear]

theorem AreClear.of_relists : ∀ {entries listed : List (Text × Node)}, Node.EachRelists entries listed →
    AreClear o entries → AreClear o listed
  | [], _, h, _ => by cases h; simp [AreClear]
  | (name, node) :: entries, _, h, hclear => by
    obtain ⟨hcuts, hnode, hrest⟩ : cuts? o name node = none ∧ (skipsName o name = false → Clear o node) ∧
      AreClear o entries := by simpa [AreClear] using hclear
    cases h with
    | cons hother hothers =>
      rw [AreClear, cuts?_of_relists hother]
      exact ⟨hcuts, fun hskips => Clear.of_relists hother (hnode hskips), AreClear.of_relists hothers hrest⟩

end

/-! ### Listings in another order -/

theorem Found.of_alikeAt {root other : Node} (halike : root.AlikeAt other) {parts : List Text}
    (h : Found o root parts) : Found o other parts := by
  refine ⟨h.ne_nil, h.visible, ?_, ?_, h.entered, ?_, h.extension, h.unexcluded, h.kept⟩
  · intro hlinks front hfront found hfound
    obtain ⟨twin, htwin, hsame⟩ := halike.symm.exists_twin hfound
    rw [hsame.isLink_eq]
    exact h.unlinked hlinks front hfront twin htwin
  · intro front hfront hne
    obtain ⟨found, entries, hfound, hdirectory⟩ := h.listable front hfront hne
    obtain ⟨twin, htwin, hsame⟩ := halike.exists_twin hfound
    obtain ⟨listed, hlisted⟩ := hsame.listable_iff.1 ⟨entries, hdirectory⟩
    exact ⟨twin, listed, htwin, hlisted⟩
  · obtain ⟨found, hfound, hfile⟩ := h.file
    obtain ⟨twin, htwin, hsame⟩ := halike.exists_twin hfound
    exact ⟨twin, htwin, hsame.file_iff.1 hfile⟩

end Discovery

/-! ### Every tree and every listing -/

open Discovery

/-- The source files of a project are those of its tree. Of every tree whose directories list no name twice,
the files stand in increasing order, and they are the files described that no listing on the way has cut
off. If no entry that the walk may come by ends a listing, that is all files described, and every other
listing of the tree gives the same list. -/
theorem source_files_exact (o : DiscoveryOptions) (fault : Option Fault) (entries : List (Text × Node))
    (h : (Node.directory fault entries).NamesDistinct) :
    (∀ project : Project, findSourceFiles o project = filesIn o project.tree) ∧
    (filesIn o (.directory fault entries)).Pairwise (· < ·) ∧
    (∀ parts, parts ∈ filesIn o (.directory fault entries) ↔
      Found o (.directory fault entries) parts ∧ Uncut o (.directory fault entries) parts) ∧
    (Clear o (.directory fault entries) →
      (∀ parts, parts ∈ filesIn o (.directory fault entries) ↔ Found o (.directory fault entries) parts) ∧
      ∀ other, Node.Relists (.directory fault entries) other →
        filesIn o other = filesIn o (.directory fault entries)) := by
  have hexact : ∀ {fault entries}, (Node.directory fault entries).NamesDistinct →
      Clear o (.directory fault entries) →
      ∀ parts, parts ∈ filesIn o (.directory fault entries) ↔ Found o (.directory fault entries) parts := by
    intro fault entries hdistinct hclear parts
    rw [mem_filesIn hdistinct]
    exact and_iff_left_of_imp fun hfound => hfound.uncut hclear
  refine ⟨findSourceFiles_eq o, filesIn_increasing h, fun parts => mem_filesIn h, fun hclear => ⟨hexact h hclear, ?_⟩⟩
  intro other hother
  have halike := hother.alikeAt h
  have hdistinct := hother.namesDistinct h
  have hclearOther := hclear.of_relists hother
  cases hother with
  | @directory _ _ relisted listed heach hperm =>
    -- both lists increase, so it is enough that they have the same members
    refine eq_of_increasing (filesIn_increasing hdistinct) (filesIn_increasing h) fun parts => ?_
    rw [hexact hdistinct hclearOther, hexact h hclear]
    exact ⟨fun hfound => hfound.of_alikeAt halike.symm, fun hfound => hfound.of_alikeAt halike⟩

/-- A link that is skipped, a barred one among others, and directories that are not entered. -/
def mixedEntries : List (Text × Node) :=
  [("src".toList, .directory none [("b.ts".toList, .file), (".h.js".toList, .file), ("a.js".toList, .file)]),
    ("l".toList, .link fun _ => .directory none [("c.js".toList, .file)]), ("bar".toList, .barredLink .nameTooLong),
    ("dist".toList, .directory none [("d.js".toList, .file)]),
    ("lib".toList, .directory none [("node_modules".toList, .directory none [("e.js".toList, .file)]),
      ("denied".toList, .directory (some .permissionDenied) [("f.js".toList, .file)])])]

theorem clear_mixedEntries : Clear defaultOptions (.directory none mixedEntries) := by
  have hlinks : defaultOptions.followLinks = false := rfl
  simp [mixedEntries, Clear, AreClear, cuts?, hlinks]

theorem source_files_exact_mixed :
    (Node.directory none mixedEntries).NamesDistinct ∧ Clear defaultOptions (.directory none mixedEntries) ∧
    filesIn Discovery.defaultOptions (.directory none mixedEntries)
      = [["src".toList, "a.js".toList], ["src".toList, "b.ts".toList]] ∧
    (∀ parts, parts ∈ filesIn Discovery.defaultOptions (.directory none mixedEntries) ↔
      Found Discovery.defaultOptions (.directory none mixedEntries) parts) ∧
    ∀ other, Node.Relists (.directory none mixedEntries) other →
      filesIn Discovery.defaultOptions other
        = filesIn Discovery.defaultOptions (.directory none mixedEntries) := by
  have hdistinct : (Node.directory none mixedEntries).NamesDistinct := by
    simp only [mixedEntries, Node.NamesDistinct, Node.EachDistinct, and_true, true_and]
    decide
  have hclear := clear_mixedEntries
  obtain ⟨-, -, -, hexact⟩ := source_files_exact Discovery.defaultOptions none mixedEntries hdistinct
  exact ⟨hdistinct, hclear, by decide +kernel, hexact hclear⟩

/-! ### A barred link -/

def followingLinks : DiscoveryOptions := { Discovery.defaultOptions with followLinks := true }

/-- A directory with a link whose target has a name that is too long, and a file listed behind it. -/
def barredProject : Project :=
  ⟨⟨['/'], []⟩, ⟨.directory none none
    [("a".toList, .link (List.replicate 256 'x')), ("b.js".toList, .file (.ok []))]⟩⟩

set_option maxRecDepth 8000 in
theorem barredProject_tree :
    barredProject.tree
      = .directory none [("a".toList, .barredLink .nameTooLong), ("b.js".toList, .file)] := by
  rfl

/-- A barred link costs a file that is listed behind it; listed in front of it the file is found. -/
theorem barred_link_cuts_listing :
    Found followingLinks barredProject.tree ["b.js".toList] ∧
      findSourceFiles followingLinks barredProject = [] ∧
      ∃ other, Node.Relists barredProject.tree other ∧ filesIn followingLinks other = [["b.js".toList]] := by
  have hrelists : Node.Relists barredProject.tree
      (.directory none [("b.js".toList, .file), ("a".toList, .barredLink .nameTooLong)]) := by
    rw [barredProject_tree]
    exact .directory (.cons (.barredLink _) (.cons .file .nil)) (List.Perm.swap _ _ _)
  have hdistinct : barredProject.tree.NamesDistinct := by
    rw [barredProject_tree]
    simp only [Node.NamesDistinct, Node.EachDistinct, and_true]
    decide
  have hfiles : filesIn followingLinks
      (.directory none [("b.js".toList, .file), ("a".toList, .barredLink .nameTooLong)])
        = [["b.js".toList]] := by decide +kernel
  have hfound : ["b.js".toList] ∈ filesIn followingLinks
      (.directory none [("b.js".toList, .file), ("a".toList, .barredLink .nameTooLong)]) := by
    rw [hfiles]
    exact List.mem_singleton.2 rfl
  have hlost : findSourceFiles followingLinks barredProject = [] := by
    rw [findSourceFiles_eq, barredProject_tree]
    decide +kernel
  refine ⟨?_, hlost, _, hrelists, hfiles⟩
  have hrelisted := ((mem_filesIn (hrelists.namesDistinct hdistinct)).1 hfound).1
  exact hrelisted.of_alikeAt (hrelists.alikeAt hdistinct).symm

end SuppressionAudit

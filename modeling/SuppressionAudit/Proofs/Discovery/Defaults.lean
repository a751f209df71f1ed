import SuppressionAudit.Proofs.Discovery.Found
import SuppressionAudit.Proofs.Glob.Literals

/-!
# Source files by default

What a walk finds when nothing else is asked for, in a tree of files and of directories that can be listed:
the files with one of the usual suffixes, apart from what is hidden, from the packages at any depth, and
from the directories for build products and the like at the top. Deeper down these names mean nothing.
An entry that cannot be looked up, because the path that leads to it is too long, is passed over, and so is
all that is listed after it in the same directory.
-/

namespace SuppressionAudit

/-! ### Suffixes -/

theorem Path.suffixOf_eq_iff {ending name : Text} (hdot : '.' ∉ ending) (hne : ending ≠ []) :
    suffixOf name = '.' :: ending ↔ ∃ stem, stem ≠ [] ∧ name = stem ++ '.' :: ending := by
  constructor
  · intro h
    unfold suffixOf at h
    dsimp only at h
    split at h
    · next hcond =>
      -- what is in front of the ending, read backwards, begins with the dot
      have hending : name.reverse.takeWhile (fun c => c != '.') = ending.reverse := by
        rw [← List.cons.inj h |>.2, List.reverse_reverse]
      have hsplit := List.takeWhile_append_dropWhile (p := fun c => c != '.') (l := name.reverse)
      have hlen := congrArg List.length hsplit
      rw [hending] at hsplit hlen hcond
      simp only [List.length_append, List.length_reverse] at hlen hcond
      cases hrest : name.reverse.dropWhile (fun c => c != '.') with
      | nil =>
        rw [hrest, List.length_nil] at hlen
        omega
      | cons c rest =>
        have hc : c = '.' := by
          have hhead := List.head?_dropWhile_not (fun c => c != '.') name.reverse
          rw [hrest] at hhead
          simpa using hhead
        rw [hrest, List.length_cons] at hlen
        rw [hrest, hc] at hsplit
        refine ⟨rest.reverse, ?_, ?_⟩
        · intro hnil
          have hzero : rest.length = 0 := by simpa using congrArg List.length hnil
          omega
        · rw [← List.reverse_inj, ← hsplit]
          simp
    · exact absurd h.symm (List.cons_ne_nil _ _)
  · rintro ⟨stem, hstem, rfl⟩
    have htake : (stem ++ '.' :: ending).reverse.takeWhile (fun c => c != '.') = ending.reverse := by
      rw [List.reverse_append, List.reverse_cons, List.append_assoc, List.takeWhile_append_of_pos]
      · simp
      · intro c hc
        have hmem : c ∈ ending := List.mem_reverse.1 hc
        simpa using fun heq : c = '.' => hdot (heq ▸ hmem)
    have hlen := List.length_pos_iff.2 hstem
    unfold suffixOf
    simp only [htake, List.reverse_reverse, List.length_append, List.length_cons]
    rw [if_pos ⟨by omega, by simpa using hne⟩]

/-! ### Trees of files and directories -/

namespace Node

mutual

/-- Files, directories that can be listed, and what cannot be looked up. -/
def IsPlain : Node → Prop
  | .file | .unreachable _ => True
  | .directory fault entries => fault = none ∧ ArePlain entries
  | _ => False

def ArePlain : List (Text × Node) → Prop
  | [] => True
  | (_, node) :: entries => IsPlain node ∧ ArePlain entries

end

variable {name : Text} {node child found : Node} {entries : List (Text × Node)} {parts : List Text}

theorem isPlain_directory_iff {fault : Option Fault} :
    (Node.directory fault entries).IsPlain ↔ fault = none ∧ ArePlain entries := by
  simp [IsPlain]

theorem ArePlain.of_mem (h : ArePlain entries) (hmem : (name, child) ∈ entries) : child.IsPlain := by
  induction entries with
  | nil => simp at hmem
  | cons entry entries ih =>
    obtain ⟨other, listed⟩ := entry
    obtain ⟨hlisted, hrest⟩ : listed.IsPlain ∧ ArePlain entries := by simpa [ArePlain] using h
    rcases List.mem_cons.1 hmem with heq | hmem
    · exact (Prod.mk.inj heq).2 ▸ hlisted
    · exact ih hrest hmem

theorem AreNamed.of_mem (h : AreNamed entries) (hmem : (name, child) ∈ entries) :
    IsName name ∧ child.IsNamed := by
  induction entries with
  | nil => simp at hmem
  | cons entry entries ih =>
    obtain ⟨other, listed⟩ := entry
    obtain ⟨hname, hlisted, hrest⟩ : IsName other ∧ listed.IsNamed ∧ AreNamed entries := by
      simpa [AreNamed] using h
    rcases List.mem_cons.1 hmem with heq | hmem
    · obtain ⟨rfl, rfl⟩ := Prod.mk.inj heq
      exact ⟨hname, hlisted⟩
    · exact ih hrest hmem

theorem IsPlain.resolved (h : node.IsPlain) : node.resolved = node := by
  cases node with
  | file => rfl
  | directory fault entries => exact resolved_directory fault entries
  | unreachable fault => rfl
  | link target => simp [IsPlain] at h
  | deadLink => simp [IsPlain] at h
  | barredLink fault => simp [IsPlain] at h

theorem IsPlain.isLink (h : node.IsPlain) : node.isLink = false := by
  cases node <;> simp_all [IsPlain, Node.isLink]

theorem IsPlain.listed (h : node.IsPlain) (hchild : node.childAt? name = some child) :
    ∃ entries, node = .directory none entries ∧ (name, child) ∈ entries ∧ ArePlain entries := by
  unfold Node.childAt? at hchild
  rw [h.resolved] at hchild
  cases node with
  | directory fault entries =>
    obtain ⟨rfl, hentries⟩ := isPlain_directory_iff.1 h
    exact ⟨entries, rfl, mem_of_entry?_eq_some hchild, hentries⟩
  | file => simp at hchild
  | link target => simp at hchild
  | deadLink => simp at hchild
  | barredLink fault => simp at hchild
  | unreachable fault => simp at hchild

theorem IsPlain.at? (h : node.IsPlain) (hfound : node.at? parts = some found) : found.IsPlain := by
  induction parts generalizing node with
  | nil => exact Option.some.inj hfound ▸ h
  | cons name rest ih =>
    rw [at?_cons] at hfound
    obtain ⟨child, hchild, hrest⟩ := Option.bind_eq_some_iff.1 hfound
    obtain ⟨entries, -, hmem, hentries⟩ := h.listed hchild
    exact ih (hentries.of_mem hmem) hrest

/-- On the way to anything in a plain tree there are directories only. -/
theorem IsPlain.directory_at? (h : node.IsPlain) {front : List Text} (hfound : node.at? (front ++ name :: parts) = some found) :
    ∃ entries, node.at? front = some (.directory none entries) := by
  induction front generalizing node with
  | nil =>
    rw [List.nil_append, at?_cons] at hfound
    obtain ⟨child, hchild, -⟩ := Option.bind_eq_some_iff.1 hfound
    obtain ⟨entries, rfl, -, -⟩ := h.listed hchild
    exact ⟨entries, rfl⟩
  | cons first front ih =>
    rw [List.cons_append, at?_cons] at hfound
    obtain ⟨child, hchild, hrest⟩ := Option.bind_eq_some_iff.1 hfound
    obtain ⟨entries, -, hmem, hentries⟩ := h.listed hchild
    rw [at?_cons, hchild]
    exact ih (hentries.of_mem hmem) hrest

theorem IsPlain.names (h : node.IsPlain) (hnamed : node.IsNamed) (hfound : node.at? parts = some found) :
    ∀ name ∈ parts, IsName name := by
  induction parts generalizing node with
  | nil => simp
  | cons first rest ih =>
    rw [at?_cons] at hfound
    obtain ⟨child, hchild, hrest⟩ := Option.bind_eq_some_iff.1 hfound
    obtain ⟨entries, rfl, hmem, hentries⟩ := h.listed hchild
    obtain ⟨hfirst, hchildNamed⟩ := AreNamed.of_mem (by simpa [IsNamed] using hnamed) hmem
    intro name hname
    rcases List.mem_cons.1 hname with rfl | hname
    · exact hfirst
    · exact ih (hentries.of_mem hmem) hchildNamed hrest name hname

end Node

/-! ### The patterns for directories -/

open Discovery

/-- The directories that are left out at the top because of their names, hidden ones among them. -/
def excludedDirectories : List Text :=
  ["node_modules".toList, ".next".toList, "out".toList, "dist".toList, "build".toList, "coverage".toList,
    "logs".toList, "tmp".toList, ".expo".toList, ".expo-shared".toList, ".turbo".toList, ".vercel".toList,
    ".firebase".toList, ".idea".toList, ".vscode".toList, ".husky".toList, "android".toList, "ios".toList,
    "public".toList, "static".toList, ".cache".toList, ".storybook".toList, ".git".toList]

theorem defaultExcludeGlobs_eq :
    defaultExcludeGlobs
      = excludedDirectories.map (· ++ "/**".toList) ++ [".DS_Store".toList, "*.log".toList] := rfl

theorem takes_default_iff {path : List Text} :
    (∃ glob ∈ defaultExcludeGlobs, Glob.Takes glob path) ↔
      (∃ first ∈ excludedDirectories, ∃ below, path = first :: below) ∨
        path = [".DS_Store".toList] ∨ ∃ name, path = [name] ∧ ".log".toList <:+ name := by
  have hdirectory : ∀ first ∈ excludedDirectories,
      (Glob.Takes (first ++ "/**".toList) path ↔ ∃ below, path = first :: below) := by
    have hliteral : ∀ first ∈ excludedDirectories, Glob.IsLiteral first := by decide +kernel
    have hsegments : ∀ first ∈ excludedDirectories,
        Glob.segments? (first ++ "/**".toList) = some [first, Glob.anyGroup] := by decide +kernel
    intro first hfirst
    exact Glob.takes_directory_iff (hsegments first hfirst) (hliteral first hfirst)
  have hstore : Glob.Takes ".DS_Store".toList path ↔ path = [".DS_Store".toList] := by
    have hsegments : Glob.segments? ".DS_Store".toList = some [".DS_Store".toList] := by decide +kernel
    have hliteral : Glob.IsLiteral ".DS_Store".toList := by decide
    rw [Glob.takes_segment_iff hsegments rfl]
    simp only [Glob.takesOne_iff_eq hliteral, exists_eq_right]
  have hlog : Glob.Takes "*.log".toList path ↔ ∃ name, path = [name] ∧ ".log".toList <:+ name := by
    have hsegments : Glob.segments? "*.log".toList = some ['*' :: ".log".toList] := by decide +kernel
    have hliteral : Glob.IsLiteral ".log".toList := by decide
    rw [Glob.takes_segment_iff hsegments rfl]
    simp only [Glob.takesOne_asterisk_iff hliteral]
  rw [defaultExcludeGlobs_eq]
  constructor
  · rintro ⟨glob, hglob, htakes⟩
    rcases List.mem_append.1 hglob with hglob | hglob
    · obtain ⟨first, hfirst, rfl⟩ := List.mem_map.1 hglob
      exact .inl ⟨first, hfirst, (hdirectory first hfirst).1 htakes⟩
    · rcases List.mem_cons.1 hglob with rfl | hglob
      · exact .inr (.inl (hstore.1 htakes))
      · obtain rfl := List.mem_singleton.1 hglob
        exact .inr (.inr (hlog.1 htakes))
  · rintro (⟨first, hfirst, hpath⟩ | hpath | hpath)
    · exact ⟨_, List.mem_append_left _ (List.mem_map_of_mem hfirst), (hdirectory first hfirst).2 hpath⟩
    · exact ⟨_, List.mem_append_right _ List.mem_cons_self, hstore.2 hpath⟩
    · exact ⟨_, List.mem_append_right _ (by simp), hlog.2 hpath⟩

/-! ### Default sources -/

/-- The names of directories that are left out at the top only. -/
def scaffoldingNames : List Text :=
  ["out".toList, "dist".toList, "build".toList, "coverage".toList, "logs".toList, "tmp".toList,
    "android".toList, "ios".toList, "public".toList, "static".toList]

/-- A file with one of the usual suffixes, none of its names hidden, in no directory of packages, and below
none of the directories that are left out at the top. -/
structure DefaultSource (root : Node) (parts : List Text) : Prop where
  file : root.at? parts = some .file
  visible : ∀ name ∈ parts, ¬ ['.'] <+: name
  no_packages : "node_modules".toList ∉ parts.dropLast
  no_scaffolding : ∀ first, parts.dropLast.head? = some first → first ∉ scaffoldingNames
  suffix : ∃ ending ∈ ["js".toList, "jsx".toList, "ts".toList, "tsx".toList], '.' :: ending <:+ lastName parts

theorem isHidden_iff {name : Text} : isHidden name = true ↔ ['.'] <+: name := by
  rw [isHidden, Text.startsWith, Option.isSome_iff_ne_none, ne_eq, Text.dropLiteral?_eq_none_iff, not_not]

theorem hasExtension_default_iff {name : Text} (hvisible : ¬ ['.'] <+: name) :
    hasExtension sourceExtensions name = true ↔
      ∃ ending ∈ ["js".toList, "jsx".toList, "ts".toList, "tsx".toList], '.' :: ending <:+ name := by
  have hextensions : sourceExtensions
      = ["js".toList, "jsx".toList, "ts".toList, "tsx".toList].map ('.' :: ·) := rfl
  have hendings : ∀ ending ∈ ["js".toList, "jsx".toList, "ts".toList, "tsx".toList],
      '.' ∉ ending ∧ ending ≠ [] := by decide
  rw [hasExtension, List.contains_iff_mem, hextensions, List.mem_map]
  constructor
  · rintro ⟨ending, hmem, hsuffix⟩
    obtain ⟨hdot, hne⟩ := hendings ending hmem
    obtain ⟨stem, -, hname⟩ := (Path.suffixOf_eq_iff hdot hne).1 hsuffix.symm
    exact ⟨ending, hmem, stem, hname.symm⟩
  · rintro ⟨ending, hmem, stem, rfl⟩
    obtain ⟨hdot, hne⟩ := hendings ending hmem
    have hstem : stem ≠ [] := by
      rintro rfl
      exact hvisible ⟨ending, rfl⟩
    exact ⟨ending, hmem, ((Path.suffixOf_eq_iff hdot hne).2 ⟨stem, hstem, rfl⟩).symm⟩

/-- A directory that begins with a visible name is left out for that name, and only at the top. -/
theorem excludedDirectories_of_visible {first : Text} (hvisible : ¬ ['.'] <+: first) :
    first ∈ excludedDirectories ↔ first = "node_modules".toList ∨ first ∈ scaffoldingNames := by
  have hnames : ∀ name ∈ excludedDirectories,
      ['.'] <+: name ∨ name = "node_modules".toList ∨ name ∈ scaffoldingNames := by decide
  have hlisted : ∀ name ∈ scaffoldingNames, name ∈ excludedDirectories := by decide
  constructor
  · intro h
    exact (hnames first h).resolve_left hvisible
  · rintro (rfl | h)
    · exact List.mem_cons_self
    · exact hlisted first h

theorem ne_of_suffixes {name front back : Text} {a b : Char} (h : front ++ [a] <:+ name) (h' : back ++ [b] <:+ name) :
    a = b := by
  obtain ⟨stem, rfl⟩ := h
  obtain ⟨other, heq⟩ := h'
  rw [← List.append_assoc, ← List.append_assoc] at heq
  exact (List.singleton_inj.1 (List.append_inj' heq rfl).2).symm

theorem first_of_dropLast {parts : List Text} {first : Text} (h : parts.dropLast.head? = some first) :
    ∃ below, parts = first :: below ∧ below ≠ [] := by
  rcases parts with - | ⟨name, below⟩
  · simp at h
  · cases below with
    | nil => simp at h
    | cons next rest =>
      obtain rfl : name = first := by simpa using h
      exact ⟨next :: rest, rfl, List.cons_ne_nil _ _⟩

variable {entries : List (Text × Node)} {parts : List Text}

theorem Discovery.Found.defaultSource (hplain : (Node.directory none entries).IsPlain)
    (hnamed : (Node.directory none entries).IsNamed)
    (h : Found defaultOptions (.directory none entries) parts) :
    DefaultSource (.directory none entries) parts := by
  obtain ⟨found, hfound, hfile⟩ := h.file
  have hat : (Node.directory none entries).at? parts = some .file := by
    rw [hfound, ← (hplain.at? hfound).resolved, hfile]
  have hnames := hplain.names hnamed hat
  have hvisible : ∀ name ∈ parts, ¬ ['.'] <+: name := by
    intro name hname hhidden
    have hshown := h.visible rfl name hname
    rw [isHidden_iff.2 hhidden] at hshown
    exact Bool.noConfusion hshown
  refine ⟨hat, hvisible, ?_, ?_, ?_⟩
  · intro hmem
    obtain ⟨front, rest, hsplit⟩ := List.append_of_mem hmem
    -- the walk does not go into the packages that stand at the end of this prefix
    have hfront : front ++ ["node_modules".toList] <+: parts.dropLast := ⟨rest, by rw [hsplit]; simp⟩
    have hlen := hfront.length_le
    have hne : front ++ ["node_modules".toList] ≠ parts := by
      intro heq
      rw [List.length_dropLast, heq] at hlen
      have hpos := List.length_pos_iff.2 h.ne_nil
      omega
    have hpruned := (h.entered _ (hfront.trans (List.dropLast_prefix parts)) (by simp) hne).1
    rw [lastName_append] at hpruned
    exact hpruned List.mem_cons_self
  · intro first hfirst hscaffolding
    obtain ⟨below, rfl, hne⟩ := first_of_dropLast hfirst
    have hname := hnames first List.mem_cons_self
    have hroot : IsBelowRoot [first] := hname.repeated (by decide : 1 ≠ 0)
    have hentered := (h.entered [first] ⟨below, rfl⟩ (List.cons_ne_nil _ _)
      (fun heq => hne (List.cons.inj heq).2.symm)).2
    have hexcluded : isExcluded defaultExcludeGlobs (Path.joinParts [first]) true = true := by
      refine (isExcluded_directory_iff hroot).2 (takes_default_iff.2 (.inl ⟨first, ?_, [[]], rfl⟩))
      exact (excludedDirectories_of_visible (hvisible first List.mem_cons_self)).2 (.inr hscaffolding)
    rw [show defaultOptions.excludeGlobs = defaultExcludeGlobs from rfl, hexcluded] at hentered
    exact Bool.noConfusion hentered
  · exact (hasExtension_default_iff (hvisible _ (lastName_mem h.ne_nil))).1 h.extension

theorem DefaultSource.first_not_excluded {root : Node} {first : Text} {below : List Text}
    (h : DefaultSource root (first :: below)) : first ∉ excludedDirectories := by
  intro hfirst
  cases below with
  | nil =>
    -- the name is that of a file here, and no directory is named like a source file
    have hnone : ∀ name ∈ excludedDirectories,
        ∀ ending ∈ ["js".toList, "jsx".toList, "ts".toList, "tsx".toList], ¬ '.' :: ending <:+ name := by
      decide
    obtain ⟨ending, hending, hsuffix⟩ := h.suffix
    exact hnone first hfirst ending hending hsuffix
  | cons next rest =>
    rcases (excludedDirectories_of_visible (h.visible first List.mem_cons_self)).1 hfirst with rfl | hscaffolding
    · exact h.no_packages List.mem_cons_self
    · exact h.no_scaffolding first rfl hscaffolding

theorem DefaultSource.directory_not_excluded {root : Node} {first : Text} {below : List Text}
    (h : DefaultSource root (first :: below)) {middle : List Text} (hnames : IsBelowRoot (first :: middle)) :
    isExcluded defaultExcludeGlobs (Path.joinParts (first :: middle)) true = false := by
  rw [← Bool.not_eq_true, isExcluded_directory_iff hnames, takes_default_iff]
  rintro (⟨other, hother, rest, heq⟩ | heq | ⟨name, heq, -⟩)
  · obtain ⟨rfl, -⟩ := List.cons.inj heq
    exact h.first_not_excluded hother
  · simp at heq
  · simp at heq

theorem DefaultSource.file_not_excluded {root : Node} (h : DefaultSource root parts)
    (hnames : IsBelowRoot parts) : isExcluded defaultExcludeGlobs (Path.joinParts parts) false = false := by
  rw [← Bool.not_eq_true, isExcluded_file_iff hnames, takes_default_iff]
  rintro (⟨first, hfirst, below, rfl⟩ | rfl | ⟨name, rfl, hlog⟩)
  · exact h.first_not_excluded hfirst
  · exact h.visible _ List.mem_cons_self (by decide)
  · -- no name ends in two ways
    have hends : ∀ ending ∈ ["js".toList, "jsx".toList, "ts".toList, "tsx".toList],
        ∃ front, '.' :: ending = front ++ ['s'] ∨ '.' :: ending = front ++ ['x'] := by
      intro ending hending
      refine ⟨('.' :: ending).dropLast, ?_⟩
      revert ending
      decide
    obtain ⟨ending, hending, hsuffix⟩ := h.suffix
    have hg : ".lo".toList ++ ['g'] <:+ name := hlog
    obtain ⟨front, hlast | hlast⟩ := hends ending hending
    · exact absurd (ne_of_suffixes hg (hlast ▸ hsuffix)) (by decide)
    · exact absurd (ne_of_suffixes hg (hlast ▸ hsuffix)) (by decide)

theorem exists_append_cons_of_prefix {front : List Text} (hfront : front <+: parts) (hne : front ≠ parts) :
    ∃ name rest, parts = front ++ name :: rest := by
  obtain ⟨rest, rfl⟩ := hfront
  cases rest with
  | nil => exact absurd (List.append_nil front).symm hne
  | cons name rest => exact ⟨name, rest, rfl⟩

theorem DefaultSource.ne_nil (h : DefaultSource (.directory none entries) parts) : parts ≠ [] := by
  rintro rfl
  exact Node.noConfusion (Option.some.inj h.file)

/-- The walk goes into every directory on the way to a default source. -/
theorem DefaultSource.entered {root : Node} (h : DefaultSource root parts) (hnames : ∀ name ∈ parts, IsName name)
    {front : List Text} (hfront : front <+: parts) (hroot : front ≠ []) (hne : front ≠ parts) :
    lastName front ∉ defaultOptions.prunedNames ∧
      isExcluded defaultOptions.excludeGlobs (Path.joinParts front) true = false := by
  obtain ⟨name, rest, hsplit⟩ := exists_append_cons_of_prefix hfront hne
  constructor
  · intro hpruned
    have hpackages : lastName front = "node_modules".toList := List.mem_singleton.1 hpruned
    have hmem : lastName front ∈ parts.dropLast := by
      rw [hsplit, List.dropLast_append_of_ne_nil (List.cons_ne_nil _ _)]
      exact List.mem_append_left _ (lastName_mem hroot)
    exact h.no_packages (hpackages ▸ hmem)
  · cases front with
    | nil => exact absurd rfl hroot
    | cons first middle =>
      rw [hsplit] at h
      exact h.directory_not_excluded ⟨List.cons_ne_nil _ _, fun n hn => hnames n (hfront.subset hn)⟩

theorem DefaultSource.found (hplain : (Node.directory none entries).IsPlain)
    (hnamed : (Node.directory none entries).IsNamed) (h : DefaultSource (.directory none entries) parts) :
    Found defaultOptions (.directory none entries) parts := by
  have hnames := hplain.names hnamed h.file
  refine ⟨h.ne_nil, ?_, ?_, ?_, ?_, ⟨.file, h.file, rfl⟩, ?_, ?_, rfl⟩
  · intro _ name hname
    rw [← Bool.not_eq_true, isHidden_iff]
    exact h.visible name hname
  · intro _ front _ found hfound
    exact (hplain.at? hfound).isLink
  · intro front hfront hne
    obtain ⟨name, rest, hsplit⟩ := exists_append_cons_of_prefix hfront hne
    obtain ⟨listed, hdirectory⟩ := hplain.directory_at? (hsplit ▸ h.file)
    exact ⟨_, listed, hdirectory, Node.resolved_directory none listed⟩
  · exact fun front hfront hroot hne => h.entered hnames hfront hroot hne
  · exact (hasExtension_default_iff (h.visible _ (lastName_mem h.ne_nil))).2 h.suffix
  · exact h.file_not_excluded ⟨h.ne_nil, hnames⟩

/-- The walk by default finds in a plain tree, in the order of their paths and each once, exactly the default
sources that no listing on the way has cut off: whatever the order of the listings is, and in every project
with such a tree. If nothing that the walk may come by ends a listing, these are all default sources. -/
theorem default_sources_exact (entries : List (Text × Node)) (hplain : (Node.directory none entries).IsPlain)
    (hnamed : (Node.directory none entries).IsNamed) (hdistinct : (Node.directory none entries).NamesDistinct) :
    (∀ project : Project, project.tree = .directory none entries →
      findSourceFiles defaultOptions project = filesIn defaultOptions (.directory none entries)) ∧
    (filesIn defaultOptions (.directory none entries)).Pairwise (· < ·) ∧
    (∀ parts, parts ∈ filesIn defaultOptions (.directory none entries) ↔
      DefaultSource (.directory none entries) parts ∧ Uncut defaultOptions (.directory none entries) parts) ∧
    (Clear defaultOptions (.directory none entries) → ∀ parts,
      parts ∈ filesIn defaultOptions (.directory none entries) ↔ DefaultSource (.directory none entries) parts) := by
  have hfound : ∀ parts, Found defaultOptions (.directory none entries) parts ↔
      DefaultSource (.directory none entries) parts :=
    fun parts => ⟨fun h => h.defaultSource hplain hnamed, fun h => h.found hplain hnamed⟩
  refine ⟨?_, filesIn_increasing hdistinct, fun parts => ?_, fun hclear parts => ?_⟩
  · intro project htree
    rw [← htree]
    exact findSourceFiles_eq _ project
  · rw [mem_filesIn hdistinct, hfound]
  · rw [mem_filesIn hdistinct, ← hfound]
    exact and_iff_left_of_imp fun h => h.uncut hclear

instance (name : Text) : Decidable (IsName name) :=
  decidable_of_iff (name ≠ [] ∧ '/' ∉ name ∧ name ≠ Path.here)
    ⟨fun h => ⟨h.1, h.2.1, h.2.2⟩, fun h => ⟨h.ne_nil, h.no_slash, h.ne_here⟩⟩

/-- The names of the usual directories at the top and deeper down, packages, and files that are hidden or
have other suffixes. -/
def webEntries : List (Text × Node) :=
  [("src".toList, .directory none [("dist".toList, .directory none [("a[1].tsx".toList, .file)]),
      (".h.js".toList, .file), ("*.log".toList, .file), ("lib".toList, .directory none
        [("node_modules".toList, .directory none [("e.js".toList, .file)]), ("m.jsx".toList, .file)])]),
    ("dist".toList, .directory none [("d.js".toList, .file)]), ("out.js".toList, .file)]

theorem default_sources_exact_web :
    (Node.directory none webEntries).IsPlain ∧ (Node.directory none webEntries).IsNamed ∧
    (Node.directory none webEntries).NamesDistinct ∧ Clear defaultOptions (.directory none webEntries) ∧
    filesIn defaultOptions (.directory none webEntries)
      = [["out.js".toList], ["src".toList, "dist".toList, "a[1].tsx".toList],
          ["src".toList, "lib".toList, "m.jsx".toList]] ∧
    ∀ parts, parts ∈ filesIn defaultOptions (.directory none webEntries) ↔
      DefaultSource (.directory none webEntries) parts := by
  have hplain : (Node.directory none webEntries).IsPlain := by
    simp only [webEntries, Node.IsPlain, Node.ArePlain, and_self]
  have hnamed : (Node.directory none webEntries).IsNamed := by
    simp only [webEntries, Node.IsNamed, Node.AreNamed, and_true, true_and]
    decide +kernel
  have hdistinct : (Node.directory none webEntries).NamesDistinct := by
    simp only [webEntries, Node.NamesDistinct, Node.EachDistinct, and_true, true_and]
    decide +kernel
  have hclear : Clear defaultOptions (.directory none webEntries) := by
    simp [webEntries, Clear, AreClear, cuts?]
  obtain ⟨-, -, -, hexact⟩ := default_sources_exact webEntries hplain hnamed hdistinct
  exact ⟨hplain, hnamed, hdistinct, hclear, by decide +kernel, hexact hclear⟩

/-! ### A path that is too long -/

/-- An item in directories inside each other, all of one name. -/
def DiskItem.buried (name : Text) : Nat → DiskItem → DiskItem
  | 0, item => item
  | n + 1, item => .directory none none [(name, item.buried name n)]

/-- A name of as many characters as a name may have. -/
def longName : Text := List.replicate 252 'f' ++ ".js".toList

/-- A directory far down with two source files; the path of the one with the long name is too long. -/
def remoteProject : Project :=
  let directory : DiskItem := .directory none none [(longName, .file (.ok [])), ("z.js".toList, .file (.ok []))]
  ⟨⟨['/'], List.replicate 15 (List.replicate 255 'd')⟩, ⟨directory.buried (List.replicate 255 'd') 15⟩⟩

set_option maxRecDepth 20000 in
theorem remoteProject_tree : remoteProject.tree
    = .directory none [(longName, .unreachable .nameTooLong), ("z.js".toList, .file)] := by
  rfl

set_option maxRecDepth 20000 in
/-- Two files are there, no link, and no directory that refuses to be listed: neither file is found, although
the path of the second one is not too long. -/
theorem long_path_costs_default_sources :
    (∀ name ∈ [longName, "z.js".toList], hasExtension sourceExtensions name = true ∧ isHidden name = false ∧
      Disk.isFile (remoteProject.disk.item? (remoteProject.root.below [name]).parts) = true) ∧
    DefaultSource remoteProject.tree ["z.js".toList] ∧ findSourceFiles defaultOptions remoteProject = [] := by
  refine ⟨by decide +kernel, ?_, ?_⟩
  · rw [remoteProject_tree]
    refine ⟨rfl, by decide, by decide, by simp, "js".toList, by decide, by decide⟩
  · rw [findSourceFiles_eq, remoteProject_tree]
    decide +kernel

end SuppressionAudit

import Mathlib.Data.List.Perm.Basic
import SuppressionAudit.Proofs.Entries
import SuppressionAudit.Tree.Node

/-!
# What lies in a tree

A tree is looked at by paths, apart from any walk: links are followed on the way to a path, and not at
its end. What lies at a path does not depend on the order in which directories list their entries, as
long as no directory lists a name twice.
-/

namespace SuppressionAudit

namespace Node

/-- What a node is once its links are followed. -/
def resolved : Node → Node
  | .link target => (target ()).resolved
  | node => node

def isLink : Node → Bool
  | .file | .directory _ _ | .unreachable _ => false
  | .link _ | .deadLink | .barredLink _ => true

def childAt? (node : Node) (name : Text) : Option Node :=
  match node.resolved with
  | .directory _ entries => entry? name entries
  | _ => none

/-- What lies at names below a node. -/
def at? (node : Node) : List Text → Option Node
  | [] => some node
  | name :: rest =>
    match node.childAt? name with
    | some child => child.at? rest
    | none => none

mutual

/-- No directory lists a name twice. -/
def NamesDistinct : Node → Prop
  | .directory _ entries => (entries.map Prod.fst).Nodup ∧ EachDistinct entries
  | .link target => NamesDistinct (target ())
  | _ => True

def EachDistinct : List (Text × Node) → Prop
  | [] => True
  | (_, node) :: entries => NamesDistinct node ∧ EachDistinct entries

end

mutual

/-- The same tree with its directories listed in any other order. -/
inductive Relists : Node → Node → Prop
  | file : Relists .file .file
  | directory {fault : Option Fault} {entries relisted listed : List (Text × Node)} :
    EachRelists entries relisted → relisted.Perm listed →
      Relists (.directory fault entries) (.directory fault listed)
  | link {target other : Unit → Node} :
    Relists (target ()) (other ()) → Relists (.link target) (.link other)
  | deadLink : Relists .deadLink .deadLink
  | barredLink (fault : Fault) : Relists (.barredLink fault) (.barredLink fault)
  | unreachable (fault : Fault) : Relists (.unreachable fault) (.unreachable fault)

inductive EachRelists : List (Text × Node) → List (Text × Node) → Prop
  | nil : EachRelists [] []
  | cons {name : Text} {node other : Node} {entries relisted : List (Text × Node)} :
    Relists node other → EachRelists entries relisted →
      EachRelists ((name, node) :: entries) ((name, other) :: relisted)

end

theorem resolved_directory (fault : Option Fault) (entries : List (Text × Node)) :
    (Node.directory fault entries).resolved = .directory fault entries := by simp [resolved]

theorem resolved_link (target : Unit → Node) : (Node.link target).resolved = (target ()).resolved := by
  simp [resolved]

theorem namesDistinct_directory_iff {fault : Option Fault} {entries : List (Text × Node)} :
    (Node.directory fault entries).NamesDistinct ↔ (entries.map Prod.fst).Nodup ∧ EachDistinct entries := by
  simp [NamesDistinct]

theorem namesDistinct_link_iff {target : Unit → Node} :
    (Node.link target).NamesDistinct ↔ (target ()).NamesDistinct := by
  simp [NamesDistinct]

theorem eachDistinct_cons_iff {name : Text} {node : Node} {entries : List (Text × Node)} :
    EachDistinct ((name, node) :: entries) ↔ node.NamesDistinct ∧ EachDistinct entries := by
  simp [EachDistinct]

/-! ### Entries -/

variable {name : Text} {node child : Node} {entries listed : List (Text × Node)}

theorem entry?_nil (name : Text) : entry? name [] = none := rfl

theorem entry?_cons (name other : Text) (node : Node) (entries : List (Text × Node)) :
    entry? name ((other, node) :: entries) = if other = name then some node else entry? name entries := rfl

theorem entry?_eq_lookup (name : Text) (entries : List (Text × Node)) :
    entry? name entries = entries.lookup name := by
  induction entries with
  | nil => rfl
  | cons entry entries ih =>
    obtain ⟨other, found⟩ := entry
    by_cases h : other = name
    · simp [entry?_cons, h]
    · have hne : (name == other) = false := beq_false_of_ne (Ne.symm h)
      simp only [entry?_cons, h, if_false, ih, List.lookup_cons, hne]

theorem mem_of_entry?_eq_some (h : entry? name entries = some child) : (name, child) ∈ entries := by
  rw [entry?_eq_lookup] at h
  exact Entries.mem_of_lookup_eq_some h

theorem entry?_perm (hperm : entries.Perm listed) (hnodup : (entries.map Prod.fst).Nodup) (name : Text) :
    entry? name entries = entry? name listed := by
  simp only [entry?_eq_lookup, Entries.lookup_perm hperm hnodup]

/-! ### Paths -/

theorem childAt?_of_directory {fault : Option Fault} (h : node.resolved = .directory fault entries)
    (name : Text) : node.childAt? name = entry? name entries := by
  unfold childAt?
  rw [h]

theorem at?_cons (node : Node) (name : Text) (rest : List Text) :
    node.at? (name :: rest) = (node.childAt? name).bind fun child => child.at? rest := by
  rw [at?]
  cases node.childAt? name <;> rfl

/-! ### Distinct names -/

theorem NamesDistinct.resolved : ∀ {node : Node}, node.NamesDistinct → node.resolved.NamesDistinct
  | .file, h => h
  | .directory _ _, h => h
  | .link target, h => by
    rw [resolved_link]
    exact (namesDistinct_link_iff.1 h).resolved
  | .deadLink, h => h
  | .barredLink _, h => h
  | .unreachable _, h => h

theorem EachDistinct.of_mem (h : EachDistinct entries) (hmem : (name, child) ∈ entries) :
    child.NamesDistinct := by
  induction entries with
  | nil => simp at hmem
  | cons entry entries ih =>
    obtain ⟨other, found⟩ := entry
    obtain ⟨hfound, hrest⟩ := eachDistinct_cons_iff.1 h
    rcases List.mem_cons.1 hmem with heq | hmem
    · rw [(Prod.mk.inj heq).2]
      exact hfound
    · exact ih hrest hmem

theorem NamesDistinct.of_directory {fault : Option Fault} (h : node.NamesDistinct)
    (hnode : node.resolved = .directory fault entries) :
    (entries.map Prod.fst).Nodup ∧ EachDistinct entries := by
  have hresolved := h.resolved
  rw [hnode] at hresolved
  exact namesDistinct_directory_iff.1 hresolved

theorem NamesDistinct.childAt? (h : node.NamesDistinct) (hchild : node.childAt? name = some child) :
    child.NamesDistinct := by
  unfold Node.childAt? at hchild
  cases hnode : node.resolved with
  | directory fault entries =>
    rw [hnode] at hchild
    exact (h.of_directory hnode).2.of_mem (mem_of_entry?_eq_some hchild)
  | file => simp [hnode] at hchild
  | link target => simp [hnode] at hchild
  | deadLink => simp [hnode] at hchild
  | barredLink fault => simp [hnode] at hchild
  | unreachable fault => simp [hnode] at hchild

theorem NamesDistinct.at? {found : Node} {parts : List Text} (h : node.NamesDistinct)
    (hfound : node.at? parts = some found) : found.NamesDistinct := by
  induction parts generalizing node with
  | nil => rwa [← Option.some.inj hfound]
  | cons name rest ih =>
    rw [at?_cons] at hfound
    obtain ⟨child, hchild, hrest⟩ := Option.bind_eq_some_iff.1 hfound
    exact ih (h.childAt? hchild) hrest

/-! ### Relisted trees -/

theorem Relists.resolved : ∀ {node other : Node}, Relists node other → Relists node.resolved other.resolved
  | .file, _, h => by cases h; exact .file
  | .directory _ _, _, h => by
    cases h with
    | directory heach hperm => exact .directory heach hperm
  | .link target, _, h => by
    cases h with
    | @link _ other htarget =>
      rw [resolved_link, resolved_link]
      exact htarget.resolved
  | .deadLink, _, h => by cases h; exact .deadLink
  | .barredLink fault, _, h => by cases h; exact .barredLink fault
  | .unreachable fault, _, h => by cases h; exact .unreachable fault

theorem EachRelists.names (h : EachRelists entries listed) :
    entries.map Prod.fst = listed.map Prod.fst := by
  induction entries generalizing listed with
  | nil => cases h; rfl
  | cons entry entries ih =>
    cases h with
    | cons hnode hrest => simp only [List.map_cons, ih hrest]

theorem EachRelists.entries_rel (h : EachRelists entries listed) (name : Text) :
    Option.Rel Relists ( entry? name entries) ( entry? name listed) := by
  induction entries generalizing listed with
  | nil => cases h; exact .none
  | cons entry entries ih =>
    cases h with
    | @cons other _ _ _ _ hnode hrest =>
      by_cases heq : other = name
      · simp only [entry?_cons, heq, if_true]
        exact .some hnode
      · simp only [entry?_cons, heq, if_false]
        exact ih hrest

theorem Relists.childAt? {other : Node} (h : Relists node other) (hdistinct : node.NamesDistinct)
    (name : Text) : Option.Rel Relists (node.childAt? name) (other.childAt? name) := by
  have hresolved := h.resolved
  have hnames := hdistinct.resolved
  unfold Node.childAt?
  generalize node.resolved = found at hresolved hnames
  generalize other.resolved = relisted at hresolved
  cases hresolved with
  | @directory _ entries relisted listed heach hperm =>
    have hnodup : (relisted.map Prod.fst).Nodup := by
      rw [← heach.names]
      exact (namesDistinct_directory_iff.1 hnames).1
    -- the entries are relisted in place first, and then permuted
    have hentry := heach.entries_rel name
    rwa [entry?_perm hperm hnodup] at hentry
  | file => exact .none
  | link htarget => exact .none
  | deadLink => exact .none
  | barredLink fault => exact .none
  | unreachable fault => exact .none

/-- At every path a relisted tree has what the tree has, relisted. -/
theorem Relists.at? {other : Node} (h : Relists node other) (hdistinct : node.NamesDistinct)
    (parts : List Text) : Option.Rel Relists (node.at? parts) (other.at? parts) := by
  induction parts generalizing node other with
  | nil => exact .some h
  | cons name rest ih =>
    have hchild := h.childAt? hdistinct name
    unfold Node.at?
    cases hfound : node.childAt? name with
    | none =>
      rw [hfound] at hchild
      generalize other.childAt? name = relisted at hchild
      cases hchild
      exact .none
    | some child =>
      rw [hfound] at hchild
      generalize other.childAt? name = relisted at hchild
      cases hchild with
      | some hrelists => exact ih hrelists (hdistinct.childAt? hfound)

theorem eachDistinct_iff : EachDistinct entries ↔ ∀ entry ∈ entries, entry.2.NamesDistinct := by
  induction entries with
  | nil => simp [EachDistinct]
  | cons entry entries ih =>
    obtain ⟨other, found⟩ := entry
    simp [EachDistinct, ih]

mutual

theorem Relists.namesDistinct : ∀ {node other : Node}, Relists node other → node.NamesDistinct →
    other.NamesDistinct
  | .file, _, h, _ => by cases h; trivial
  | .directory _ entries, _, h, hdistinct => by
    obtain ⟨hnodup, heachDistinct⟩ := namesDistinct_directory_iff.1 hdistinct
    cases h with
    | directory heach hperm =>
      have hrelisted := heach.eachDistinct heachDistinct
      rw [heach.names] at hnodup
      refine ⟨(hperm.map Prod.fst).nodup_iff.1 hnodup, eachDistinct_iff.2 fun entry hentry => ?_⟩
      exact eachDistinct_iff.1 hrelisted entry (hperm.mem_iff.2 hentry)
  | .link target, _, h, hdistinct => by
    cases h with
    | link hother => exact hother.namesDistinct (namesDistinct_link_iff.1 hdistinct)
  | .deadLink, _, h, _ => by cases h; trivial
  | .barredLink _, _, h, _ => by cases h; trivial
  | .unreachable _, _, h, _ => by cases h; trivial

theorem EachRelists.eachDistinct : ∀ {entries listed : List (Text × Node)}, EachRelists entries listed →
    EachDistinct entries → EachDistinct listed
  | [], _, h, _ => by cases h; trivial
  | (_, node) :: entries, _, h, hdistinct => by
    obtain ⟨hnode, hrest⟩ := eachDistinct_cons_iff.1 hdistinct
    cases h with
    | cons hother hothers => exact ⟨hother.namesDistinct hnode, hothers.eachDistinct hrest⟩

end

/-! ### Trees that look alike -/

/-- What a walk can tell of a node without going into it. -/
structure Alike (node other : Node) : Prop where
  isLink_eq : node.isLink = other.isLink
  file_iff : node.resolved = .file ↔ other.resolved = .file
  listable_iff : (∃ entries, node.resolved = .directory none entries) ↔
    ∃ entries, other.resolved = .directory none entries

/-- The same things at the same paths. -/
def AlikeAt (root other : Node) : Prop := ∀ parts, Option.Rel Alike (root.at? parts) (other.at? parts)

theorem Relists.alike {other : Node} (h : Relists node other) : Alike node other := by
  have hresolved := h.resolved
  have hfile : node.resolved = .file ↔ other.resolved = .file := by
    generalize node.resolved = found at hresolved
    generalize other.resolved = relisted at hresolved
    cases hresolved <;> simp
  have hlistable : (∃ entries, node.resolved = .directory none entries) ↔
      ∃ entries, other.resolved = .directory none entries := by
    generalize node.resolved = found at hresolved
    generalize other.resolved = relisted at hresolved
    cases hresolved <;> simp
  refine ⟨?_, hfile, hlistable⟩
  cases h <;> rfl

theorem Relists.alikeAt {other : Node} (h : Relists node other) (hdistinct : node.NamesDistinct) :
    AlikeAt node other := by
  intro parts
  have hrelists := h.at? hdistinct parts
  generalize node.at? parts = found at hrelists
  generalize other.at? parts = relisted at hrelists
  cases hrelists with
  | some hnode => exact .some hnode.alike
  | none => exact .none

theorem Alike.symm {other : Node} (h : Alike node other) : Alike other node :=
  ⟨h.isLink_eq.symm, h.file_iff.symm, h.listable_iff.symm⟩

theorem AlikeAt.symm {root other : Node} (h : AlikeAt root other) : AlikeAt other root := by
  intro parts
  have hparts := h parts
  generalize root.at? parts = found at hparts
  generalize other.at? parts = twin at hparts
  cases hparts with
  | some hnode => exact .some hnode.symm
  | none => exact .none

theorem AlikeAt.exists_twin {root other found : Node} {parts : List Text} (h : AlikeAt root other)
    (hfound : root.at? parts = some found) : ∃ twin, other.at? parts = some twin ∧ Alike found twin := by
  have hparts := h parts
  rw [hfound] at hparts
  generalize other.at? parts = twin at hparts
  cases hparts with
  | some hnode => exact ⟨_, rfl, hnode⟩

end Node

end SuppressionAudit

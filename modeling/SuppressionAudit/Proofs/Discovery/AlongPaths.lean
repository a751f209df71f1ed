import Mathlib.Data.List.Nodup
import SuppressionAudit.Proofs.Discovery.Trees
import SuppressionAudit.Proofs.Walk

/-!
# Where a walk comes

All that a walk meets, files and refusals alike, is what the node at some path gives when the walk comes
there. Where it comes is told from what lies at the paths of the tree, one condition for each part of a
path, and with them whether a listing on the way ended too soon: an entry that cannot be looked up ends the
listing that it stands in, and what is listed after it is lost. Nothing is met twice.
-/

namespace SuppressionAudit

namespace Discovery

/-! ### Conditions on a path -/

def lastName (parts : List Text) : Text := parts.getLast?.getD []

def follows (o : DiscoveryOptions) (node : Node) : Bool := o.followLinks || !node.isLink

/-- Whether a listing ends before the entry of a name. -/
def endsBefore (o : DiscoveryOptions) (name : Text) : List (Text × Node) → Bool
  | [] => false
  | (other, node) :: entries =>
    if other = name then false else (cuts? o other node).isSome || endsBefore o name entries

/-- The entry that ends a listing, if one does, and why. -/
def cutIn? (o : DiscoveryOptions) : List (Text × Node) → Option (Text × Fault)
  | [] => none
  | (name, node) :: entries =>
    match cuts? o name node with
    | some fault => some (name, fault)
    | none => cutIn? o entries

/-- No listing on the way to names below a node ends before the name that is taken. -/
def Uncut (o : DiscoveryOptions) (node : Node) (below : List Text) : Prop :=
  ∀ front name rest, below = front ++ name :: rest → ∀ found fault entries, node.at? front = some found →
    found.resolved = .directory fault entries → endsBefore o name entries = false

/-- Whether the walk goes into the directory at a path; it always goes into the root. -/
def goesInto (o : DiscoveryOptions) (parts : List Text) : Bool :=
  parts.isEmpty || entersDirectory o parts (lastName parts)

variable {o : DiscoveryOptions}

theorem skipsName_eq_false_iff {name : Text} :
    skipsName o name = false ↔ (o.includeHidden = false → isHidden name = false) := by
  unfold skipsName
  cases isHidden name <;> cases o.includeHidden <;> simp

theorem follows_iff {node : Node} : follows o node = true ↔ (o.followLinks = false → node.isLink = false) := by
  unfold follows
  cases node.isLink <;> cases o.followLinks <;> simp

theorem goesInto_iff {parts : List Text} : goesInto o parts = true ↔ (parts ≠ [] →
    lastName parts ∉ o.prunedNames ∧ isExcluded o.excludeGlobs (Path.joinParts parts) true = false) := by
  cases parts with
  | nil => simp [goesInto]
  | cons name rest => simp [goesInto, entersDirectory]

theorem lastName_append (base : List Text) (name : Text) : lastName (base ++ [name]) = name := by
  simp [lastName]

theorem goesInto_append (base : List Text) (name : Text) :
    goesInto o (base ++ [name]) = entersDirectory o (base ++ [name]) name := by
  simp [goesInto, lastName_append]

theorem lastName_mem {parts : List Text} (hne : parts ≠ []) : lastName parts ∈ parts := by
  rw [lastName, List.getLast?_eq_getLast_of_ne_nil hne]
  exact List.getLast_mem hne

/-! ### Arrivals -/

/-- Why the listing of a directory is not finished, if it is not: the directory refuses to be listed, or an
entry ends the listing. -/
def unfinished? (o : DiscoveryOptions) (parts : List Text) (fault : Option Fault)
    (entries : List (Text × Node)) : Option WalkEvent :=
  match fault with
  | some fault => some (.refused parts parts fault)
  | none => (cutIn? o entries).map fun cut => .refused parts (parts ++ [cut.1]) cut.2

/-- What the node at a path gives to a walk that comes there, apart from all that lies below. -/
def arrival (o : DiscoveryOptions) (parts : List Text) (node : Node) : List WalkEvent :=
  if follows o node then
    match node.resolved with
    | .file => if takesFile o parts (lastName parts) then [.found parts] else []
    | .directory fault entries =>
      if goesInto o parts then (unfinished? o parts fault entries).toList else []
    | _ => []
  else []

/-- The walk goes on from the node at `parts` and comes to the node `last` at `below`. -/
inductive Comes (o : DiscoveryOptions) : List Text → Node → List Text → Node → Prop
  | here {parts : List Text} {node : Node} : Comes o parts node [] node
  | further {parts : List Text} {node : Node} {entries : List (Text × Node)} {next : Text} {child : Node}
      {rest : List Text} {last : Node} :
    follows o node = true → goesInto o parts = true → node.resolved = .directory none entries →
      Node.entry? next entries = some child → skipsName o next = false → endsBefore o next entries = false →
      Comes o (parts ++ [next]) child rest last → Comes o parts node (next :: rest) last

/-- The walk takes up a listing and comes to the node `last` at `below`. -/
def ComesIn (o : DiscoveryOptions) (parts : List Text) (entries : List (Text × Node)) (below : List Text)
    (last : Node) : Prop :=
  ∃ next rest child, below = next :: rest ∧ Node.entry? next entries = some child ∧ skipsName o next = false ∧
    endsBefore o next entries = false ∧ Comes o (parts ++ [next]) child rest last

/-- The path that an event is about. -/
def WalkEvent.place : WalkEvent → List Text
  | .found parts => parts
  | .refused _ parts _ => parts

variable {parts below : List Text} {name : Text} {node last : Node} {entries : List (Text × Node)} {event : WalkEvent}

theorem comes_iff : Comes o parts node below last ↔ (below = [] ∧ node = last) ∨
    (follows o node = true ∧ goesInto o parts = true ∧
      ∃ entries, node.resolved = .directory none entries ∧ ComesIn o parts entries below last) := by
  constructor
  · intro h
    cases h with
    | here => exact .inl ⟨rfl, rfl⟩
    | further hfollows henters hdirectory hentry hskips hends hrest =>
      exact .inr ⟨hfollows, henters, _, hdirectory, _, _, _, rfl, hentry, hskips, hends, hrest⟩
  · rintro (⟨rfl, rfl⟩ | ⟨hfollows, henters, entries, hdirectory, next, rest, child, rfl, hentry, hskips, hends,
      hrest⟩)
    · exact .here
    · exact .further hfollows henters hdirectory hentry hskips hends hrest

/-- What the walk meets from the node at a path on. -/
def Meets (o : DiscoveryOptions) (parts : List Text) (node : Node) (event : WalkEvent) : Prop :=
  ∃ below last, Comes o parts node below last ∧ event ∈ arrival o (parts ++ below) last

def MeetsIn (o : DiscoveryOptions) (parts : List Text) (entries : List (Text × Node)) (event : WalkEvent) : Prop :=
  ∃ below last, ComesIn o parts entries below last ∧ event ∈ arrival o (parts ++ below) last

/-- The event that an entry ends the listing of the directory at a path. -/
def CutsShort (o : DiscoveryOptions) (parts : List Text) (entries : List (Text × Node)) (event : WalkEvent) : Prop :=
  ∃ name fault, cutIn? o entries = some (name, fault) ∧ event = .refused parts (parts ++ [name]) fault

theorem mem_unfinished_iff {fault : Option Fault} : event ∈ (unfinished? o parts fault entries).toList ↔
    (∃ refusal, fault = some refusal ∧ event = .refused parts parts refusal) ∨
      (fault = none ∧ CutsShort o parts entries event) := by
  cases fault with
  | some fault => simp [unfinished?]
  | none =>
    cases hcut : cutIn? o entries with
    | none => simp [unfinished?, CutsShort, hcut]
    | some cut =>
      obtain ⟨name, fault⟩ := cut
      simp [unfinished?, CutsShort, hcut, and_assoc]

theorem meets_iff : Meets o parts node event ↔ event ∈ arrival o parts node ∨
    (follows o node = true ∧ goesInto o parts = true ∧
      ∃ entries, node.resolved = .directory none entries ∧ MeetsIn o parts entries event) := by
  constructor
  · rintro ⟨below, last, hcomes, hevent⟩
    rcases comes_iff.1 hcomes with ⟨rfl, rfl⟩ | ⟨hfollows, henters, entries, hdirectory, hrest⟩
    · exact .inl (by rwa [List.append_nil] at hevent)
    · exact .inr ⟨hfollows, henters, entries, hdirectory, below, last, hrest, hevent⟩
  · rintro (hevent | ⟨hfollows, henters, entries, hdirectory, below, last, hrest, hevent⟩)
    · exact ⟨[], node, .here, by rwa [List.append_nil]⟩
    · exact ⟨below, last, comes_iff.2 (.inr ⟨hfollows, henters, entries, hdirectory, hrest⟩), hevent⟩

/-- At what is neither a file nor a directory nothing is met. -/
theorem not_meets_of_resolved (hfile : node.resolved ≠ .file)
    (hdirectory : ∀ fault entries, node.resolved ≠ .directory fault entries) : ¬ Meets o parts node event := by
  rw [meets_iff]
  rintro (hevent | ⟨-, -, entries, hresolved, -⟩)
  · unfold arrival at hevent
    split at hevent
    · split at hevent
      · next hresolved => exact hfile hresolved
      · next fault entries hresolved => exact hdirectory fault entries hresolved
      · simp at hevent
    · simp at hevent
  · exact hdirectory none entries hresolved

/-- An entry that ends its listing is no file and no directory. -/
theorem not_meets_of_cuts {fault : Fault} (h : cuts? o name node = some fault) : ¬ Meets o parts node event := by
  cases node with
  | barredLink barrier => exact not_meets_of_resolved (by simp [Node.resolved]) (by simp [Node.resolved])
  | unreachable barrier => exact not_meets_of_resolved (by simp [Node.resolved]) (by simp [Node.resolved])
  | file => simp [cuts?] at h
  | directory refusal entries => simp [cuts?] at h
  | link target => simp [cuts?] at h
  | deadLink => simp [cuts?] at h

theorem meets_link {target : Unit → Node} :
    Meets o parts (.link target) event ↔ o.followLinks = true ∧ Meets o parts (target ()) event := by
  have hlink : follows o (.link target) = o.followLinks := by simp [follows, Node.isLink]
  rw [meets_iff, meets_iff, hlink, Node.resolved_link]
  cases hlinks : o.followLinks with
  | false => simp [arrival, hlink, hlinks]
  | true =>
    have htarget : follows o (target ()) = true := by simp [follows, hlinks]
    have harrival : arrival o parts (.link target) = arrival o parts (target ()) := by
      unfold arrival
      rw [hlink, htarget, hlinks, Node.resolved_link]
    rw [harrival, htarget]
    simp only [true_and]

theorem meetsIn_nil : ¬ MeetsIn o parts [] event := by
  rintro ⟨below, last, ⟨next, rest, child, -, hentry, -⟩, -⟩
  simp [Node.entry?_nil] at hentry

theorem meetsIn_cons (hnew : name ∉ entries.map Prod.fst) :
    MeetsIn o parts ((name, node) :: entries) event ↔
      (skipsName o name = false ∧ Meets o (parts ++ [name]) node event) ∨
      (cuts? o name node = none ∧ MeetsIn o parts entries event) := by
  constructor
  · rintro ⟨below, last, ⟨next, rest, child, rfl, hentry, hskips, hends, hcomes⟩, hevent⟩
    rw [Node.entry?_cons] at hentry
    by_cases hname : name = next
    · obtain rfl := hname
      rw [if_pos rfl] at hentry
      obtain rfl := Option.some.inj hentry
      exact .inl ⟨hskips, rest, last, hcomes, by rwa [List.append_assoc]⟩
    · rw [if_neg hname] at hentry
      rw [endsBefore, if_neg hname, Bool.or_eq_false_iff, Option.isSome_eq_false_iff, Option.isNone_iff_eq_none]
        at hends
      exact .inr ⟨hends.1, _, last, ⟨next, rest, child, rfl, hentry, hskips, hends.2, hcomes⟩, hevent⟩
  · rintro (⟨hskips, rest, last, hcomes, hevent⟩ | ⟨hcuts, below, last, ⟨next, rest, child, rfl, hentry, hskips,
      hends, hcomes⟩, hevent⟩)
    · refine ⟨name :: rest, last, ⟨name, rest, node, rfl, ?_, hskips, ?_, hcomes⟩, ?_⟩
      · rw [Node.entry?_cons, if_pos rfl]
      · rw [endsBefore, if_pos rfl]
      · rwa [List.append_assoc] at hevent
    · -- the name is listed once, so an entry further on has another one
      have hname : name ≠ next := by
        rintro rfl
        exact hnew (List.mem_map.2 ⟨_, Node.mem_of_entry?_eq_some hentry, rfl⟩)
      refine ⟨_, last, ⟨next, rest, child, rfl, ?_, hskips, ?_, hcomes⟩, hevent⟩
      · rw [Node.entry?_cons, if_neg hname]
        exact hentry
      · rw [endsBefore, if_neg hname, hcuts, hends]
        rfl

theorem cutsShort_nil : ¬ CutsShort o parts [] event := by
  rintro ⟨name, fault, hcut, -⟩
  simp [cutIn?] at hcut

theorem cutsShort_cons_of_cuts {fault : Fault} (h : cuts? o name node = some fault) :
    CutsShort o parts ((name, node) :: entries) event ↔ event = .refused parts (parts ++ [name]) fault := by
  simp [CutsShort, cutIn?, h, and_assoc]

theorem cutsShort_cons_of_passed (h : cuts? o name node = none) :
    CutsShort o parts ((name, node) :: entries) event ↔ CutsShort o parts entries event := by
  simp [CutsShort, cutIn?, h]

/-! ### The walk meets what is at its arrivals -/

mutual

theorem mem_walkNode_iff {base : List Text} {name : Text} {event : WalkEvent} :
    ∀ {node : Node}, node.NamesDistinct →
      (event ∈ walkNode o (base ++ [name]) name node ↔ Meets o (base ++ [name]) node event)
  | .file, _ => by
    rw [meets_iff]
    simp [walkNode, arrival, follows, Node.isLink, Node.resolved, lastName_append]
  | .directory fault entries, hdistinct => by
    obtain ⟨hnodup, heach⟩ := Node.namesDistinct_directory_iff.1 hdistinct
    have hinside : event ∈ walkEntries o (base ++ [name]) entries ↔ _ := mem_walkEntries_iff hnodup heach
    have hfollows : follows o (.directory fault entries) = true := by simp [follows, Node.isLink]
    have hresolved := Node.resolved_directory fault entries
    rw [meets_iff]
    unfold walkNode
    cases henters : entersDirectory o (base ++ [name]) name with
    | false => simp [arrival, hfollows, hresolved, goesInto_append, henters]
    | true =>
      cases fault with
      | some fault => simp [arrival, unfinished?, hfollows, hresolved, goesInto_append, henters]
      | none =>
        have harrival : event ∈ arrival o (base ++ [name]) (.directory none entries) ↔
            CutsShort o (base ++ [name]) entries event := by
          simp only [arrival, hfollows, hresolved, goesInto_append, henters, if_true, mem_unfinished_iff]
          simp
        rw [harrival]
        simpa [hfollows, hresolved, goesInto_append, henters] using hinside
  | .link target, hdistinct => by
    have htarget := Node.namesDistinct_link_iff.1 hdistinct
    rw [meets_link]
    unfold walkNode
    cases hlinks : o.followLinks with
    | false => simp
    | true => simpa using mem_walkNode_iff htarget
  | .deadLink, _ => by
    have hnot : ¬ Meets o (base ++ [name]) .deadLink event :=
      not_meets_of_resolved (by simp [Node.resolved]) (by simp [Node.resolved])
    simpa [walkNode] using hnot
  | .barredLink fault, _ => by
    have hnot : ¬ Meets o (base ++ [name]) (.barredLink fault) event :=
      not_meets_of_resolved (by simp [Node.resolved]) (by simp [Node.resolved])
    simpa [walkNode] using hnot
  | .unreachable fault, _ => by
    have hnot : ¬ Meets o (base ++ [name]) (.unreachable fault) event :=
      not_meets_of_resolved (by simp [Node.resolved]) (by simp [Node.resolved])
    simpa [walkNode] using hnot

theorem mem_walkEntries_iff {parts : List Text} {event : WalkEvent} :
    ∀ {entries : List (Text × Node)}, (entries.map Prod.fst).Nodup → Node.EachDistinct entries →
      (event ∈ walkEntries o parts entries ↔ CutsShort o parts entries event ∨ MeetsIn o parts entries event)
  | [], _, _ => by simp [walkEntries, cutsShort_nil, meetsIn_nil]
  | (name, node) :: entries, hnodup, heach => by
    obtain ⟨hnode, hrest⟩ := Node.eachDistinct_cons_iff.1 heach
    obtain ⟨hnew, hnodupRest⟩ := List.nodup_cons.1 hnodup
    have hlater : event ∈ walkEntries o parts entries ↔ _ := mem_walkEntries_iff hnodupRest hrest
    rw [meetsIn_cons hnew]
    unfold walkEntries
    cases hcuts : cuts? o name node with
    | some fault =>
      -- the listing ends here: of what is listed further on nothing is met
      have hnone : ¬ Meets o (parts ++ [name]) node event := not_meets_of_cuts hcuts
      simp [cutsShort_cons_of_cuts hcuts, hnone]
    | none =>
      rw [cutsShort_cons_of_passed hcuts]
      cases hskips : skipsName o name with
      | true => simpa using hlater
      | false =>
        have hhere : event ∈ walkNode o (parts ++ [name]) name node ↔ _ := mem_walkNode_iff hnode
        simp only [Bool.false_eq_true, if_false, List.mem_append, hhere, hlater, true_and]
        exact or_left_comm

end

/-! ### Arrivals, told by the paths of the tree -/

/-- The walk goes from a node at names `base` on to what lies at `below`, if no listing ends too soon. -/
structure Passes (o : DiscoveryOptions) (base : List Text) (node : Node) (below : List Text) : Prop where
  visible : ∀ name ∈ below, skipsName o name = false
  followed : ∀ front, front <+: below → front ≠ below → ∀ found, node.at? front = some found →
    follows o found = true
  listable : ∀ front, front <+: below → front ≠ below →
    ∃ found entries, node.at? front = some found ∧ found.resolved = .directory none entries
  entered : ∀ front, front <+: below → front ≠ below → goesInto o (base ++ front) = true

theorem forall_prefix_cons {name : Text} {below : List Text} {P : List Text → Prop} :
    (∀ front, front <+: name :: below → P front) ↔ P [] ∧ ∀ front, front <+: below → P (name :: front) := by
  constructor
  · intro h
    refine ⟨h [] List.nil_prefix, fun front hfront => h _ ?_⟩
    exact List.cons_prefix_cons.2 ⟨rfl, hfront⟩
  · rintro ⟨hnil, hcons⟩ front hfront
    rcases List.prefix_cons_iff.1 hfront with rfl | ⟨rest, rfl, hrest⟩
    · exact hnil
    · exact hcons rest hrest

theorem forall_proper_prefix_cons {P : List Text → Prop} :
    (∀ front, front <+: name :: below → front ≠ name :: below → P front) ↔
      P [] ∧ ∀ front, front <+: below → front ≠ below → P (name :: front) := by
  have hnil : [] ≠ name :: below := (List.cons_ne_nil _ _).symm
  have hcons : ∀ front, name :: front ≠ name :: below ↔ front ≠ below := by simp
  rw [forall_prefix_cons]
  constructor
  · rintro ⟨hhere, hbelow⟩
    exact ⟨hhere hnil, fun front hfront hne => hbelow front hfront ((hcons front).2 hne)⟩
  · rintro ⟨hhere, hbelow⟩
    exact ⟨fun _ => hhere, fun front hfront hne => hbelow front hfront ((hcons front).1 hne)⟩

theorem passes_nil {base : List Text} : Passes o base node [] := by
  have hnone : ∀ front, front <+: [] → front ≠ ([] : List Text) → False :=
    fun front hfront hne => hne (List.prefix_nil.1 hfront)
  exact ⟨by simp, fun front hfront hne => (hnone front hfront hne).elim,
    fun front hfront hne => (hnone front hfront hne).elim, fun front hfront hne => (hnone front hfront hne).elim⟩

theorem passes_cons {base : List Text} {child : Node} (hchild : node.childAt? name = some child) :
    Passes o base node (name :: below) ↔
      skipsName o name = false ∧ follows o node = true ∧ goesInto o base = true ∧
        (∃ entries, node.resolved = .directory none entries) ∧ Passes o (base ++ [name]) child below := by
  have hat : ∀ front, node.at? (name :: front) = child.at? front := by
    intro front
    rw [Node.at?_cons, hchild]
    rfl
  have hroot : ∀ found, node.at? [] = some found ↔ node = found := by simp [Node.at?]
  have hbase : ∀ front, base ++ [name] ++ front = base ++ name :: front := by simp
  constructor
  · rintro ⟨hvisible, hfollowed, hlistable, hentered⟩
    rw [forall_proper_prefix_cons] at hfollowed hlistable hentered
    simp only [hat, hroot, List.append_nil] at hfollowed hlistable hentered
    obtain ⟨found, entries, rfl, hdirectory⟩ := hlistable.1
    refine ⟨hvisible name List.mem_cons_self, hfollowed.1 node rfl, hentered.1, ⟨entries, hdirectory⟩,
      fun n hn => hvisible n (List.mem_cons_of_mem _ hn), hfollowed.2, hlistable.2, ?_⟩
    simp only [hbase]
    exact hentered.2
  · rintro ⟨hskips, hfollows, henters, ⟨entries, hdirectory⟩, hvisible, hfollowed, hlistable, hentered⟩
    refine ⟨List.forall_mem_cons.2 ⟨hskips, hvisible⟩, ?_, ?_, ?_⟩
    · rw [forall_proper_prefix_cons]
      simp only [hat, hroot, forall_eq']
      exact ⟨hfollows, hfollowed⟩
    · rw [forall_proper_prefix_cons]
      simp only [hat, hroot]
      exact ⟨⟨node, entries, rfl, hdirectory⟩, hlistable⟩
    · rw [forall_proper_prefix_cons]
      simp only [hbase] at hentered
      rw [List.append_nil]
      exact ⟨henters, hentered⟩

theorem uncut_nil : Uncut o node [] := by
  intro front name rest hsplit
  simp at hsplit

theorem uncut_cons {node child : Node} {name : Text} {below : List Text} (hchild : node.childAt? name = some child) :
    Uncut o node (name :: below) ↔
      (∀ fault entries, node.resolved = .directory fault entries → endsBefore o name entries = false) ∧
        Uncut o child below := by
  constructor
  · intro h
    refine ⟨fun fault entries hnode => h [] name below rfl node fault entries rfl hnode, ?_⟩
    intro front next rest hbelow found fault entries hfound hdirectory
    refine h (name :: front) next rest (by rw [hbelow]; rfl) found fault entries ?_ hdirectory
    rw [Node.at?_cons, hchild]
    exact hfound
  · rintro ⟨hhere, hbelow⟩ front next rest hsplit found fault entries hfound hdirectory
    cases front with
    | nil =>
      obtain ⟨rfl, rfl⟩ := List.cons.inj hsplit
      obtain rfl := Option.some.inj hfound
      exact hhere fault entries hdirectory
    | cons first front =>
      obtain ⟨rfl, hrest⟩ := List.cons.inj hsplit
      rw [Node.at?_cons, hchild] at hfound
      exact hbelow front next rest hrest found fault entries hfound hdirectory

/-- What lies at a path is where the walk comes: the path can be passed, no listing on it ends too soon. -/
def LiesAhead (o : DiscoveryOptions) (base : List Text) (node : Node) (below : List Text) (last : Node) : Prop :=
  Passes o base node below ∧ Uncut o node below ∧ node.at? below = some last

theorem comesIn_cons_iff {base : List Text} {last : Node} (hdirectory : node.resolved = .directory none entries)
    (hfollows : follows o node = true) (henters : goesInto o base = true)
    (hchildren : ∀ child, Comes o (base ++ [name]) child below last ↔ LiesAhead o (base ++ [name]) child below last) :
    ComesIn o base entries (name :: below) last ↔ LiesAhead o base node (name :: below) last := by
  have hlisted := Node.childAt?_of_directory hdirectory
  constructor
  · rintro ⟨next, rest, child, heq, hentry, hskips, hends, hcomes⟩
    obtain ⟨rfl, rfl⟩ := List.cons.inj heq
    have hchild := (hlisted name).trans hentry
    obtain ⟨hpasses, huncut, hlast⟩ := (hchildren child).1 hcomes
    refine ⟨(passes_cons hchild).2 ⟨hskips, hfollows, henters, ⟨entries, hdirectory⟩, hpasses⟩,
      (uncut_cons hchild).2 ⟨fun fault found hfound => ?_, huncut⟩, ?_⟩
    · rw [hdirectory] at hfound
      obtain ⟨-, rfl⟩ := Node.directory.inj hfound
      exact hends
    · rw [Node.at?_cons, hchild]
      exact hlast
  · rintro ⟨hpasses, huncut, hlast⟩
    rw [Node.at?_cons] at hlast
    obtain ⟨child, hchild, hlast⟩ := Option.bind_eq_some_iff.1 hlast
    obtain ⟨hskips, -, -, -, hbelow⟩ := (passes_cons hchild).1 hpasses
    obtain ⟨hends, hrest⟩ := (uncut_cons hchild).1 huncut
    exact ⟨name, below, child, rfl, (hlisted name).symm.trans hchild, hskips, hends none entries hdirectory,
      (hchildren child).2 ⟨hbelow, hrest, hlast⟩⟩

theorem comes_iff_liesAhead {base : List Text} {last : Node} :
    Comes o base node below last ↔ LiesAhead o base node below last := by
  induction below generalizing base node with
  | nil =>
    rw [comes_iff, LiesAhead]
    simp [passes_nil, uncut_nil, ComesIn, Node.at?]
  | cons name below ih =>
    rw [comes_iff]
    constructor
    · rintro (⟨hnil, -⟩ | ⟨hfollows, henters, entries, hdirectory, hcomes⟩)
      · exact absurd hnil (List.cons_ne_nil _ _)
      · exact (comesIn_cons_iff hdirectory hfollows henters fun child => ih).1 hcomes
    · intro h
      have hlast := h.2.2
      rw [Node.at?_cons] at hlast
      obtain ⟨child, hchild, -⟩ := Option.bind_eq_some_iff.1 hlast
      obtain ⟨-, hfollows, henters, ⟨entries, hdirectory⟩, -⟩ := (passes_cons hchild).1 h.1
      exact .inr ⟨hfollows, henters, entries, hdirectory,
        (comesIn_cons_iff hdirectory hfollows henters fun child => ih).2 h⟩

/-! ### Files and refusals -/

theorem found_mem_arrival_iff {file : List Text} : .found file ∈ arrival o parts node ↔
    file = parts ∧ follows o node = true ∧ node.resolved = .file ∧ takesFile o parts (lastName parts) = true := by
  unfold arrival
  cases follows o node with
  | false => simp
  | true =>
    cases node.resolved with
    | file => cases takesFile o parts (lastName parts) <;> simp
    | directory fault entries =>
      cases goesInto o parts with
      | false => simp
      | true =>
        simp only [if_true, mem_unfinished_iff]
        simp [CutsShort]
    | link target => simp
    | deadLink => simp
    | barredLink fault => simp
    | unreachable fault => simp

theorem refused_mem_arrival_iff {directory path : List Text} {fault : Fault} :
    .refused directory path fault ∈ arrival o parts node ↔
      directory = parts ∧ follows o node = true ∧ goesInto o parts = true ∧
        ((path = parts ∧ ∃ entries, node.resolved = .directory (some fault) entries) ∨
          ∃ entries name, path = parts ++ [name] ∧ node.resolved = .directory none entries ∧
            cutIn? o entries = some (name, fault)) := by
  unfold arrival
  cases follows o node with
  | false => simp
  | true =>
    cases node.resolved with
    | file => cases takesFile o parts (lastName parts) <;> simp
    | directory refusal entries =>
      cases goesInto o parts with
      | false => simp
      | true =>
        simp only [if_true, mem_unfinished_iff, CutsShort, WalkEvent.refused.injEq, Node.directory.injEq, true_and]
        constructor
        · rintro (⟨reason, rfl, rfl, rfl, rfl⟩ | ⟨rfl, name, reason, hcut, rfl, rfl, rfl⟩)
          · exact ⟨rfl, .inl ⟨rfl, entries, rfl, rfl⟩⟩
          · exact ⟨rfl, .inr ⟨entries, name, rfl, ⟨rfl, rfl⟩, hcut⟩⟩
        · rintro ⟨rfl, ⟨rfl, listed, rfl, rfl⟩ | ⟨listed, name, rfl, ⟨rfl, rfl⟩, hcut⟩⟩
          · exact .inl ⟨fault, rfl, rfl, rfl, rfl⟩
          · exact .inr ⟨rfl, name, fault, hcut, rfl, rfl, rfl⟩
    | link target => simp
    | deadLink => simp
    | barredLink fault => simp
    | unreachable fault => simp

/-! ### Nothing is met twice -/

theorem CutsShort.place (h : CutsShort o parts entries event) :
    ∃ name, name ∈ entries.map Prod.fst ∧ event.place = parts ++ [name] := by
  obtain ⟨name, fault, hcut, rfl⟩ := h
  refine ⟨name, ?_, rfl⟩
  induction entries with
  | nil => simp [cutIn?] at hcut
  | cons entry entries ih =>
    obtain ⟨other, node⟩ := entry
    unfold cutIn? at hcut
    split at hcut
    · obtain ⟨rfl, -⟩ := Prod.mk.inj (Option.some.inj hcut)
      exact List.mem_cons_self
    · exact List.mem_cons_of_mem _ (ih hcut)

theorem place_of_arrival (h : event ∈ arrival o parts node) : ∃ below, event.place = parts ++ below := by
  cases event with
  | found file =>
    obtain ⟨rfl, -⟩ := found_mem_arrival_iff.1 h
    exact ⟨[], (List.append_nil _).symm⟩
  | refused directory path fault =>
    obtain ⟨-, -, -, ⟨rfl, -⟩ | ⟨-, name, rfl, -⟩⟩ := refused_mem_arrival_iff.1 h
    · exact ⟨[], (List.append_nil _).symm⟩
    · exact ⟨[name], rfl⟩

theorem Meets.place (h : Meets o parts node event) : ∃ below, event.place = parts ++ below := by
  obtain ⟨below, last, -, hevent⟩ := h
  obtain ⟨rest, hplace⟩ := place_of_arrival hevent
  exact ⟨below ++ rest, by rw [hplace, List.append_assoc]⟩

theorem MeetsIn.place (h : MeetsIn o parts entries event) :
    ∃ next below, next ∈ entries.map Prod.fst ∧ event.place = parts ++ next :: below := by
  obtain ⟨_, last, ⟨next, below, child, rfl, hentry, -⟩, hevent⟩ := h
  obtain ⟨rest, hplace⟩ := place_of_arrival hevent
  exact ⟨next, below ++ rest, List.mem_map.2 ⟨_, Node.mem_of_entry?_eq_some hentry, rfl⟩,
    by rw [hplace, List.append_assoc]; rfl⟩

mutual

theorem nodup_walkNode {base : List Text} {name : Text} :
    ∀ {node : Node}, node.NamesDistinct → (walkNode o (base ++ [name]) name node).Nodup
  | .file, _ => by
    unfold walkNode
    cases takesFile o (base ++ [name]) name <;> simp
  | .directory fault entries, hdistinct => by
    obtain ⟨hnodup, heach⟩ := Node.namesDistinct_directory_iff.1 hdistinct
    unfold walkNode
    cases entersDirectory o (base ++ [name]) name with
    | false => simp
    | true =>
      cases fault with
      | some fault => simp
      | none => exact nodup_walkEntries hnodup heach
  | .link target, hdistinct => by
    have htarget := Node.namesDistinct_link_iff.1 hdistinct
    unfold walkNode
    cases o.followLinks with
    | false => simp
    | true => exact nodup_walkNode htarget
  | .deadLink, _ => by simp [walkNode]
  | .barredLink _, _ => by simp [walkNode]
  | .unreachable _, _ => by simp [walkNode]

theorem nodup_walkEntries {parts : List Text} :
    ∀ {entries : List (Text × Node)}, (entries.map Prod.fst).Nodup → Node.EachDistinct entries →
      (walkEntries o parts entries).Nodup
  | [], _, _ => by simp [walkEntries]
  | (name, node) :: entries, hnodup, heach => by
    obtain ⟨hnode, hrest⟩ := Node.eachDistinct_cons_iff.1 heach
    obtain ⟨hnew, hnodupRest⟩ := List.nodup_cons.1 hnodup
    have hlater : (walkEntries o parts entries).Nodup := nodup_walkEntries hnodupRest hrest
    unfold walkEntries
    cases hcuts : cuts? o name node with
    | some fault => simp
    | none =>
      cases skipsName o name with
      | true => exact hlater
      | false =>
        refine List.nodup_append.2 ⟨nodup_walkNode hnode, hlater, ?_⟩
        rintro event hhere other hthere rfl
        -- the two places would begin with the same name of an entry
        obtain ⟨below, hplace⟩ := ((mem_walkNode_iff hnode).1 hhere).place
        have hother : ∃ next rest, next ∈ entries.map Prod.fst ∧ event.place = parts ++ next :: rest := by
          rcases (mem_walkEntries_iff hnodupRest hrest).1 hthere with hcut | hmeets
          · obtain ⟨next, hnext, hother⟩ := hcut.place
            exact ⟨next, [], hnext, hother⟩
          · exact hmeets.place
        obtain ⟨next, rest, hnext, hother⟩ := hother
        rw [hplace, List.append_assoc] at hother
        obtain ⟨rfl, -⟩ := List.cons.inj (List.append_cancel_left hother)
        exact hnew hnext

end

theorem mem_foundIn_iff {events : List WalkEvent} {file : List Text} :
    file ∈ foundIn events ↔ .found file ∈ events := by
  simp only [foundIn, List.mem_filterMap]
  constructor
  · rintro ⟨event, hevent, heq⟩
    cases event with
    | found parts => exact Option.some.inj heq ▸ hevent
    | refused directory parts fault => exact absurd heq (Option.some_ne_none file).symm
  · intro h
    exact ⟨_, h, rfl⟩

theorem nodup_foundIn {events : List WalkEvent} (h : events.Nodup) : (foundIn events).Nodup := by
  refine List.Nodup.filterMap (fun event other file hevent hother => ?_) h
  cases event <;> cases other <;> simp_all

/-! ### The walk from the root -/

variable {fault : Option Fault}

/-- The walk meets what is at its arrivals, from the root on. -/
theorem mem_walk_iff (h : (Node.directory fault entries).NamesDistinct) :
    event ∈ walk o (.directory fault entries) ↔
      ∃ below last, LiesAhead o [] (.directory fault entries) below last ∧ event ∈ arrival o below last := by
  obtain ⟨hnodup, heach⟩ := Node.namesDistinct_directory_iff.1 h
  have hfollows : follows o (.directory fault entries) = true := by simp [follows, Node.isLink]
  have hresolved := Node.resolved_directory fault entries
  have hroot : goesInto o [] = true := rfl
  have hwalk : event ∈ walk o (.directory fault entries) ↔ Meets o [] (.directory fault entries) event := by
    rw [meets_iff]
    cases fault with
    | some refusal => simp [walk, arrival, unfinished?, hfollows, hresolved, hroot]
    | none =>
      have harrival : event ∈ arrival o [] (.directory none entries) ↔ CutsShort o [] entries event := by
        simp only [arrival, hfollows, hresolved, hroot, if_true, mem_unfinished_iff]
        simp
      have hinside : event ∈ walkEntries o [] entries ↔ _ := mem_walkEntries_iff hnodup heach
      rw [harrival]
      simpa [walk, hfollows, hresolved, hroot] using hinside
  simp only [hwalk, Meets, comes_iff_liesAhead, List.nil_append]

theorem nodup_walk (h : (Node.directory fault entries).NamesDistinct) :
    (walk o (.directory fault entries)).Nodup := by
  obtain ⟨hnodup, heach⟩ := Node.namesDistinct_directory_iff.1 h
  cases fault with
  | some refusal => simp [walk]
  | none => exact nodup_walkEntries hnodup heach

end Discovery

end SuppressionAudit

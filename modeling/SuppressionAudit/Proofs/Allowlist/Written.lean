import SuppressionAudit.Proofs.Allowlist.Loading
import SuppressionAudit.Proofs.Json.Writings

/-!
# Allowlists that were written

An object that lists rules and patterns, and holds whatever else, is written to the file of an allowlist. The
file describes those rules and patterns, and they are loaded from it, as long as the reader goes down to the
deepest of its fields: one that it does not know counts as much as the two that it looks for.
-/

namespace SuppressionAudit

namespace Allowlist

variable {project : Project} {name rule : Text} {rules paths : List Text} {fields : List (Text × Json)} {v : Json}
  {limit : Nat}

theorem exemptsRule_iff {allowlist : Allowlist} :
    allowlist.exemptsRule rule = true ↔ rule ∈ allowlist.exemptRules := List.contains_iff_mem

/-! ### Files that were written -/

/-- The writer puts no line break into a document. -/
theorem unifyLineBreaks_write (v : Json) : Text.unifyLineBreaks (Json.write v) = Json.write v := by
  refine Text.unifyLineBreaks_of_not_mem fun hreturn => ?_
  exact absurd (Json.printable_write v _ hreturn) (by decide)

theorem shallow_write_iff : Shallow limit (.ok (Utf8.encode (Json.write v))) ↔ v.depth ≤ limit := by
  have hnesting : Json.nesting (Text.unifyLineBreaks (Json.write v)) = v.depth := by
    rw [unifyLineBreaks_write]
    exact Json.nesting_of_document (Json.document_write v)
  constructor
  · intro h
    rw [← hnesting]
    exact h _ rfl
  · intro h text htext
    obtain rfl := Utf8.encode_injective (Except.ok.inj htext)
    rwa [hnesting]

/-- What the lists are in the object they are in the file, wherever they stand among the fields. -/
theorem holds_write (hrules : Json.LastField "rules".toList (.arr (rules.map .str)) fields)
    (hpaths : Json.LastField "paths".toList (.arr (paths.map .str)) fields) :
    Holds (.ok (Utf8.encode (Json.write (.obj fields)))) rules paths := by
  refine ⟨Json.write (.obj fields), fields, rfl, ?_, .texts (.inl hrules), .texts (.inl hpaths)⟩
  rw [unifyLineBreaks_write]
  exact Json.document_write (.obj fields)

theorem load_of_deep (hfile : FileAt project name (.ok (Utf8.encode (Json.write v))))
    (h : limit < v.depth) : load project name limit = .error .tooDeep := by
  have hread : Json.read (Json.write v) limit = .error .tooDeep := by
    rw [Json.read_write, if_neg (Nat.not_le.2 h)]
  rw [load_of_file hfile]
  simp only [ofContent, document_encode, unifyLineBreaks_write, hread]
  rfl

end Allowlist

open Allowlist

/-- An object with any fields is written to the file of an allowlist. Its lists of rules and patterns are read
back, the rules as a set, and exactly these rules are exempt. When its fields are too deep for the reader,
however deep it reads and whichever they are, nothing is loaded. -/
theorem written_allowlist_read_back (project : Project) (name : Text) (rules paths : List Text)
    (fields : List (Text × Json)) (limit : Nat)
    (hrules : Json.LastField "rules".toList (.arr (rules.map .str)) fields)
    (hpaths : Json.LastField "paths".toList (.arr (paths.map .str)) fields)
    (hfile : FileAt project name (.ok (Utf8.encode (Json.write (.obj fields))))) :
    ((Json.obj fields).depth ≤ limit → ∃ allowlist notice,
      Allowlist.load project name limit = .ok (allowlist, [notice]) ∧
        notice = .allowlistLoaded (project.root.join (Path.ofText name)).toText allowlist.exemptRules.length
          paths.length ∧
        allowlist.exemptRules.Nodup ∧ (∀ rule, rule ∈ allowlist.exemptRules ↔ rule ∈ rules) ∧
        (∀ rule, allowlist.exemptsRule rule = true ↔ rule ∈ rules) ∧ allowlist.exemptPaths = paths) ∧
    (limit < (Json.obj fields).depth → Allowlist.load project name limit = .error .tooDeep) := by
  refine ⟨fun hdepth => ?_, load_of_deep hfile⟩
  have hmem : ∀ rule, rule ∈ distinct rules ↔ rule ∈ rules := fun rule => mem_distinct
  rw [load_of_file hfile, ofContent_of_holds (shallow_write_iff.2 hdepth) (holds_write hrules hpaths)]
  exact ⟨_, _, rfl, rfl, nodup_distinct rules, hmem, fun rule => exemptsRule_iff.trans (hmem rule), rfl⟩

/-- A project with nothing but the bytes of an allowlist. -/
def allowlistProject (bytes : List UInt8) : Project :=
  ⟨⟨['/'], []⟩, ⟨.directory none none [(Allowlist.defaultName, .file (.ok bytes))]⟩⟩

theorem fileAt_allowlistProject (bytes : List UInt8) :
    FileAt (allowlistProject bytes) Allowlist.defaultName (.ok bytes) := by
  exact ⟨rfl, rfl⟩

/-- Fields in another order, one that is not known, and one of a name that counts further on. -/
def writtenFields : List (Text × Json) :=
  [("paths".toList, .null), ("note".toList, .arr [.int (-3), .obj [("rules".toList, .arr [])]]),
    ("rules".toList, .arr [.str "a\"\\\n".toList, .str "😀é".toList]), ("paths".toList, .arr [.str "b/**".toList])]

theorem written_allowlist_read_back_reordered : ∃ allowlist notice,
    Allowlist.load (allowlistProject (Utf8.encode (Json.write (.obj writtenFields)))) Allowlist.defaultName
      = .ok (allowlist, [notice]) ∧
    (∀ rule, allowlist.exemptsRule rule = true ↔ rule ∈ ["a\"\\\n".toList, "😀é".toList]) ∧
    allowlist.exemptPaths = ["b/**".toList] := by
  have hrules : Json.LastField "rules".toList (.arr (["a\"\\\n".toList, "😀é".toList].map .str)) writtenFields :=
    Json.lookup_eq_some_iff.1 rfl
  have hpaths : Json.LastField "paths".toList (.arr (["b/**".toList].map .str)) writtenFields :=
    Json.lookup_eq_some_iff.1 rfl
  obtain ⟨hread, -⟩ := written_allowlist_read_back _ _ _ _ writtenFields Json.nestingLimit hrules hpaths
    (fileAt_allowlistProject _)
  obtain ⟨allowlist, notice, hload, -, -, -, hexempt, hlist⟩ := hread (by decide)
  exact ⟨allowlist, notice, hload, hexempt, hlist⟩

/-! ### A field that is too deep -/

/-- Lists inside each other. -/
def nested : Nat → Json
  | 0 => .null
  | n + 1 => .arr [nested n]

theorem depth_nested (n : Nat) : (nested n).depth = n := by
  induction n with
  | zero => rfl
  | succ n ih => simp [nested, Json.depth, Json.depthOfItems, ih]

/-- An allowlist with a field beside it. -/
def fieldsBeside (v : Json) : List (Text × Json) :=
  [("rules".toList, .arr [.str "a".toList]), ("paths".toList, .arr [.str "b/**".toList]), ("x".toList, v)]

theorem depth_lt_fieldsBeside (v : Json) : v.depth < (Json.obj (fieldsBeside v)).depth := by
  simp only [fieldsBeside, Json.depth, Json.depthOfFields]
  omega

/-- The lists of rules and patterns are as they should be, and they are not loaded, for the field beside them. -/
theorem deep_field_fails_loading :
    Json.LastField "rules".toList (.arr (["a".toList].map .str)) (fieldsBeside (nested 1200)) ∧
    Json.LastField "paths".toList (.arr (["b/**".toList].map .str)) (fieldsBeside (nested 1200)) ∧
    ∀ loaded, Allowlist.load (allowlistProject (Utf8.encode (Json.write (.obj (fieldsBeside (nested 1200))))))
      Allowlist.defaultName ≠ .ok loaded := by
  have hdeep : Json.nestingLimit < (nested 1200).depth := by
    rw [depth_nested]
    decide
  generalize nested 1200 = v at hdeep ⊢
  refine ⟨Json.lookup_eq_some_iff.1 rfl, Json.lookup_eq_some_iff.1 rfl, ?_⟩
  intro loaded
  rw [load_of_deep (fileAt_allowlistProject _) (Nat.lt_trans hdeep (depth_lt_fieldsBeside v))]
  simp

end SuppressionAudit

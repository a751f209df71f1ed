import Mathlib.Data.List.Nodup
import SuppressionAudit.Allowlist
import SuppressionAudit.Proofs.Json.Fields

/-!
# Allowlists as they are written in objects

An object describes an allowlist when each of its two fields, under the name that counts, is absent, null or
a list of nothing but texts. Objects that describe none give no part of one.
-/

namespace SuppressionAudit

namespace Allowlist

/-! ### Fields with two names -/

/-- The value of a field under its short name, or under its long one where there is no short one. -/
def HasField (short long : Text) (fields : List (Text × Json)) (value : Json) : Prop :=
  Json.LastField short value fields ∨ (short ∉ fields.map Prod.fst ∧ Json.LastField long value fields)

/-- The texts that a field with two names lists. -/
inductive Lists (short long : Text) (fields : List (Text × Json)) : List Text → Prop
  | absent : short ∉ fields.map Prod.fst → long ∉ fields.map Prod.fst → Lists short long fields []
  | null : HasField short long fields .null → Lists short long fields []
  | texts {texts : List Text} : HasField short long fields (.arr (texts.map .str)) → Lists short long fields texts

/-- An object with these fields describes the allowlist of some rules and patterns. -/
structure Describes (fields : List (Text × Json)) (rules paths : List Text) : Prop where
  rules : Lists "rules".toList "exempt_rules".toList fields rules
  paths : Lists "paths".toList "exempt_path_patterns".toList fields paths

variable {short long field : Text} {fields : List (Text × Json)} {texts rules paths : List Text} {value : Json}
  {fault : FieldFault}

theorem get?_fieldName : (Json.obj fields).get? (fieldName (.obj fields) short long)
    = (Json.lookup short fields).or (Json.lookup long fields) := by
  have hget : ∀ key, (Json.obj fields).get? key = Json.lookup key fields := fun _ => rfl
  unfold fieldName
  rw [hget, hget, hget]
  cases hshort : Json.lookup short fields with
  | some value => simp [hshort]
  | none =>
    cases hlong : Json.lookup long fields with
    | some value => simp [hlong]
    | none => simp [hshort]

theorem hasField_iff : HasField short long fields value ↔
    (Json.lookup short fields).or (Json.lookup long fields) = some value := by
  rw [HasField, ← Json.lookup_eq_some_iff, ← Json.lookup_eq_some_iff, ← Json.lookup_eq_none_iff]
  cases Json.lookup short fields <;> simp

theorem absent_iff : (short ∉ fields.map Prod.fst ∧ long ∉ fields.map Prod.fst) ↔
    (Json.lookup short fields).or (Json.lookup long fields) = none := by
  rw [← Json.lookup_eq_none_iff, ← Json.lookup_eq_none_iff]
  cases Json.lookup short fields <;> simp

/-! ### Lists of texts -/

theorem textsFrom_texts (field : Text) (index : Nat) (texts : List Text) :
    textsFrom field index (texts.map .str) = (texts, []) := by
  induction texts generalizing index with
  | nil => rfl
  | cons text texts ih => simp [textsFrom, ih]

theorem eq_texts_of_textsFrom (index : Nat) {items : List Json} (h : (textsFrom field index items).2 = []) :
    ∃ texts : List Text, items = texts.map Json.str := by
  induction items generalizing index with
  | nil => exact ⟨[], rfl⟩
  | cons item items ih =>
    cases item with
    | str text =>
      obtain ⟨texts, rfl⟩ := ih (index + 1) (by simpa [textsFrom] using h)
      exact ⟨text :: texts, rfl⟩
    | null => simp [textsFrom] at h
    | bool b => simp [textsFrom] at h
    | int n => simp [textsFrom] at h
    | real r => simp [textsFrom] at h
    | arr inner => simp [textsFrom] at h
    | obj inner => simp [textsFrom] at h

/-- A field fits exactly when it lists texts, and they are the ones that are taken. -/
theorem textsOf_eq_iff :
    textsOf (.obj fields) (fieldName (.obj fields) short long) fault = (texts, []) ↔
      Lists short long fields texts := by
  unfold textsOf
  rw [get?_fieldName]
  constructor
  · intro h
    cases hvalue : (Json.lookup short fields).or (Json.lookup long fields) with
    | none =>
      rw [hvalue] at h
      obtain ⟨rfl, -⟩ := Prod.mk.inj h
      obtain ⟨hshort, hlong⟩ := absent_iff.2 hvalue
      exact .absent hshort hlong
    | some value =>
      rw [hvalue] at h
      cases value with
      | null =>
        obtain ⟨rfl, -⟩ := Prod.mk.inj h
        exact .null (hasField_iff.2 hvalue)
      | arr items =>
        obtain ⟨listed, rfl⟩ := eq_texts_of_textsFrom 0 (congrArg Prod.snd h)
        obtain ⟨rfl, -⟩ := Prod.mk.inj ((textsFrom_texts _ 0 listed).symm.trans h)
        exact .texts (hasField_iff.2 hvalue)
      | bool b => simp at h
      | int n => simp at h
      | real r => simp at h
      | str text => simp at h
      | obj inner => simp at h
  · intro h
    cases h with
    | absent hshort hlong => rw [absent_iff.1 ⟨hshort, hlong⟩]
    | null hvalue => rw [hasField_iff.1 hvalue]
    | texts hvalue =>
      rw [hasField_iff.1 hvalue]
      exact textsFrom_texts _ 0 texts

/-! ### Rules -/

theorem mem_distinct {rule : Text} : rule ∈ distinct texts ↔ rule ∈ texts := by
  induction texts with
  | nil => simp [distinct]
  | cons text texts ih =>
    rw [distinct, List.mem_cons, List.mem_cons, List.mem_filter, ih, bne_iff_ne]
    by_cases heq : rule = text <;> simp [heq]

theorem nodup_distinct (texts : List Text) : (distinct texts).Nodup := by
  induction texts with
  | nil => exact List.nodup_nil
  | cons text texts ih =>
    refine List.nodup_cons.2 ⟨?_, ih.filter _⟩
    simp [List.mem_filter]

/-! ### Objects -/

theorem ofJson_eq_ok_iff {allowlist : Allowlist} : ofJson (.obj fields) = .ok allowlist ↔
    ∃ rules paths, Describes fields rules paths ∧ allowlist = ⟨distinct rules, paths⟩ := by
  unfold ofJson
  dsimp only
  constructor
  · intro h
    split at h
    · next hnone =>
      obtain ⟨hrules, hpaths⟩ := List.append_eq_nil_iff.1 hnone
      obtain rfl := Except.ok.inj h
      exact ⟨_, _, ⟨textsOf_eq_iff.1 (Prod.ext rfl hrules), textsOf_eq_iff.1 (Prod.ext rfl hpaths)⟩, rfl⟩
    · simp at h
  · rintro ⟨rules, paths, hdescribes, rfl⟩
    rw [textsOf_eq_iff.2 hdescribes.rules, textsOf_eq_iff.2 hdescribes.paths]
    rfl

end Allowlist

end SuppressionAudit

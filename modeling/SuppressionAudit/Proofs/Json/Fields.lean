import SuppressionAudit.Json

/-!
# Fields of objects

The field of a name that counts is the last one of that name.
-/

namespace SuppressionAudit

namespace Json

/-- The last field of a name among the fields of an object. -/
def LastField (key : Text) (value : Json) (fields : List (Text × Json)) : Prop :=
  ∃ before after, fields = before ++ (key, value) :: after ∧ key ∉ after.map Prod.fst

theorem lookup_eq_some_iff {key : Text} {value : Json} {fields : List (Text × Json)} :
    lookup key fields = some value ↔ LastField key value fields := by
  constructor
  · intro h
    induction fields with
    | nil => simp [lookup] at h
    | cons field fields ih =>
      obtain ⟨k, v⟩ := field
      cases hlater : lookup key fields with
      | some w =>
        have hw : w = value := by simpa [lookup, hlater] using h
        obtain ⟨before, after, hfields, hnot⟩ := ih (hw ▸ hlater)
        exact ⟨(k, v) :: before, after, by rw [hfields, List.cons_append], hnot⟩
      | none =>
        obtain ⟨hk, hv⟩ : k = key ∧ v = value := by simpa [lookup, hlater] using h
        have hnot : key ∉ fields.map Prod.fst := by
          rw [← lookup_isSome_iff, hlater]
          simp
        exact ⟨[], fields, by rw [hk, hv, List.nil_append], hnot⟩
  · rintro ⟨before, after, rfl, hnot⟩
    have hafter : lookup key after = none := by
      rw [← lookup_isSome_iff] at hnot
      simpa using hnot
    simp [lookup_append, lookup, hafter]

theorem lookup_eq_none_iff {key : Text} {fields : List (Text × Json)} :
    lookup key fields = none ↔ key ∉ fields.map Prod.fst := by
  rw [← lookup_isSome_iff]
  cases lookup key fields <;> simp

end Json

end SuppressionAudit

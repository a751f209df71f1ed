import Mathlib.Data.List.Forall2
import SuppressionAudit.Proofs.Glob.Pruning
import SuppressionAudit.Proofs.Text.Trims

/-!
# Groups of segments

A pattern matches a path when the segments of the path can be cut into consecutive groups, one for each
segment of the pattern. The search over all cuts finds such groups when there are any, and the segments of
the pattern are those of its text once the blanks around it and a leading `./` are gone and two asterisks
stand behind a slash at its end.
-/

namespace SuppressionAudit

namespace Text

theorem endsWith_iff {s literal : Text} : endsWith s literal = true ↔ literal <:+ s := by
  rw [endsWith, startsWith, Option.isSome_iff_ne_none, ne_eq, dropLiteral?_eq_none_iff, not_not,
    List.reverse_prefix]

end Text

/-! ### Groups -/

namespace Cover

variable {π α : Type} {isGroup : π → Bool} {holds : π → α → Bool}

/-- The group of elements that a part takes: any at all, or one that it holds for. -/
def TakesGroup (isGroup : π → Bool) (holds : π → α → Bool) (part : π) (group : List α) : Prop :=
  if isGroup part = true then True else ∃ x, group = [x] ∧ holds part x = true

/-- Parts cover elements when the elements are groups in a row, one for each part. -/
theorem covers_iff_exists_groups {parts : List π} {xs : List α} :
    covers isGroup holds parts xs = true ↔
      ∃ groups, List.Forall₂ (TakesGroup isGroup holds) parts groups ∧ groups.flatten = xs := by
  induction parts generalizing xs with
  | nil =>
    rw [covers_nil_iff]
    constructor
    · rintro rfl
      exact ⟨[], .nil, rfl⟩
    · rintro ⟨groups, hgroups, rfl⟩
      cases hgroups
      rfl
  | cons part parts ih =>
    cases hpart : isGroup part with
    | true =>
      rw [covers_group_iff hpart]
      constructor
      · rintro ⟨front, rest, rfl, hrest⟩
        obtain ⟨groups, hgroups, rfl⟩ := ih.1 hrest
        have hfront : TakesGroup isGroup holds part front := by simp [TakesGroup, hpart]
        exact ⟨front :: groups, .cons hfront hgroups, rfl⟩
      · rintro ⟨groups, hgroups, rfl⟩
        obtain ⟨front, more, -, hmore, rfl⟩ := List.forall₂_cons_left_iff.1 hgroups
        exact ⟨front, more.flatten, rfl, ih.2 ⟨more, hmore, rfl⟩⟩
    | false =>
      rw [covers_one_iff hpart]
      constructor
      · rintro ⟨x, rest, rfl, hx, hrest⟩
        obtain ⟨groups, hgroups, rfl⟩ := ih.1 hrest
        have hone : TakesGroup isGroup holds part [x] := by simp [TakesGroup, hpart, hx]
        exact ⟨[x] :: groups, .cons hone hgroups, rfl⟩
      · rintro ⟨groups, hgroups, rfl⟩
        obtain ⟨group, more, hgroup, hmore, rfl⟩ := List.forall₂_cons_left_iff.1 hgroups
        obtain ⟨x, rfl, hx⟩ : ∃ x, group = [x] ∧ holds part x = true := by
          simpa [TakesGroup, hpart] using hgroup
        exact ⟨x, more.flatten, rfl, hx, ih.2 ⟨more, hmore, rfl⟩⟩

end Cover

/-! ### Patterns -/

namespace Glob

/-- A pattern's text without the blanks around it, of which something is left, without one leading
`./`, and with two asterisks behind a slash at its end. -/
def Stands (pattern s : Text) : Prop :=
  ∃ core body, IsCore pattern core ∧ core ≠ [] ∧
    (core = ['.', '/'] ++ body ∨ ¬ ['.', '/'] <+: core ∧ body = core) ∧
    (['/'] <:+ body ∧ s = body ++ ['*', '*'] ∨ ¬ ['/'] <:+ body ∧ s = body)

/-- A segment of two asterisks takes any group, every other one a single segment that it fits. -/
def TakesSegments (head : Text) (group : List Text) : Prop :=
  head = ['*', '*'] ∨ head ≠ ['*', '*'] ∧ ∃ segment, group = [segment] ∧ takesOne head segment = true

theorem dropHere_eq_iff {core body : Text} :
    dropHere core = body ↔ core = ['.', '/'] ++ body ∨ ¬ ['.', '/'] <+: core ∧ body = core := by
  unfold dropHere
  cases hdrop : Text.dropLiteral? ['.', '/'] core with
  | none =>
    have hnot := Text.dropLiteral?_eq_none_iff.1 hdrop
    have hne : core ≠ ['.', '/'] ++ body := fun e => hnot ⟨body, e.symm⟩
    simp only [Option.getD_none, hne, hnot, not_false_eq_true, true_and, false_or]
    exact eq_comm
  | some rest =>
    obtain rfl := Text.dropLiteral?_eq_some_iff.1 hdrop
    have hhere : ['.', '/'] <+: ['.', '/'] ++ rest := ⟨rest, rfl⟩
    simp only [Option.getD_some, hhere, not_true_eq_false, false_and, or_false, List.append_cancel_left_eq]

theorem completeBelow_eq_iff {body s : Text} :
    completeBelow body = s ↔ ['/'] <:+ body ∧ s = body ++ ['*', '*'] ∨ ¬ ['/'] <:+ body ∧ s = body := by
  unfold completeBelow
  by_cases h : ['/'] <:+ body
  · simp only [Text.endsWith_iff.2 h, if_true, h, not_true_eq_false, true_and, false_and, or_false, anyGroup]
    exact eq_comm
  · have hends : Text.endsWith body ['/'] = false := by
      rw [← Bool.not_eq_true, Text.endsWith_iff]
      exact h
    simp only [hends, Bool.false_eq_true, if_false, h, not_false_eq_true, true_and, false_and, false_or]
    exact eq_comm

theorem segments?_eq_some_iff {pattern : Text} {heads : List Text} :
    segments? pattern = some heads ↔ ∃ s, Stands pattern s ∧ heads = List.splitOn '/' s := by
  unfold segments? Stands
  dsimp only
  constructor
  · intro h
    split at h
    · simp at h
    · next hne =>
      refine ⟨completeBelow (dropHere (Text.trim pattern)), ?_, ?_⟩
      · refine ⟨Text.trim pattern, dropHere (Text.trim pattern), Text.isCore_trim pattern, ?_,
          dropHere_eq_iff.1 rfl, completeBelow_eq_iff.1 rfl⟩
        simpa using hne
      · rw [← Option.some.inj h, segmentsOf, Text.splitOn_eq]
  · rintro ⟨s, ⟨core, body, hcore, hne, hbody, hs⟩, rfl⟩
    rw [Text.isCore_iff.1 hcore, dropHere_eq_iff.2 hbody, completeBelow_eq_iff.2 hs, segmentsOf,
      Text.splitOn_eq]
    simp [hne]

theorem takesGroup_iff {head : Text} {group : List Text} :
    Cover.TakesGroup isAnyGroup takesOne head group ↔ TakesSegments head group := by
  unfold Cover.TakesGroup TakesSegments isAnyGroup anyGroup
  by_cases h : head = ['*', '*']
  · simp [h]
  · simp [h]

/-- A path matches a pattern exactly when something is left of the pattern and the segments of the path
are groups in a row, one for each segment of what is left. -/
theorem accepts_iff_exists_groups (pattern path : Text) :
    accepts pattern path = true ↔
      ∃ s, Stands pattern s ∧ ∃ groups, List.Forall₂ TakesSegments (List.splitOn '/' s) groups ∧
        groups.flatten = List.splitOn '/' path := by
  have hgroups : Cover.TakesGroup isAnyGroup takesOne = TakesSegments := by
    funext head group
    exact propext takesGroup_iff
  rw [accepts_iff, Takes, segmentsOf, Text.splitOn_eq]
  constructor
  · rintro ⟨segments, hsegments, hcovers⟩
    obtain ⟨s, hstands, rfl⟩ := segments?_eq_some_iff.1 hsegments
    obtain ⟨groups, htakes, hflatten⟩ := Cover.covers_iff_exists_groups.1 hcovers
    exact ⟨s, hstands, groups, hgroups ▸ htakes, hflatten⟩
  · rintro ⟨s, hstands, groups, htakes, hflatten⟩
    refine ⟨List.splitOn '/' s, segments?_eq_some_iff.2 ⟨s, hstands, rfl⟩, ?_⟩
    exact Cover.covers_iff_exists_groups.2 ⟨groups, hgroups.symm ▸ htakes, hflatten⟩

end Glob

end SuppressionAudit

import Mathlib.Data.List.Infix
import SuppressionAudit.Directive.RuleList
import SuppressionAudit.Proofs.Text.Cuts
import SuppressionAudit.Proofs.Text.Trims

/-!
# Rendered rule lists

What the text of a rule list says when it is read. Names that are trimmed and hold neither a comma nor two
dashes come back one by one, each at the place where it was written, and so does the reason: no comma and no
two dashes arise where the pieces of the text meet.
-/

namespace SuppressionAudit

namespace Text

/-! ### Doubled characters -/

/-- Two equal characters side by side lie on one side of any other character. -/
theorem doubled_of_append_cons {x c : Char} (hne : x ≠ c) {s t : Text} (h : [x, x] <:+: s ++ c :: t) :
    [x, x] <:+: s ∨ [x, x] <:+: t := by
  induction s with
  | nil =>
    rcases List.infix_cons_iff.1 h with hfront | hlater
    · exact absurd (List.cons_prefix_cons.1 hfront).1 hne
    · exact .inr hlater
  | cons d s ih =>
    rcases List.infix_cons_iff.1 h with hfront | hlater
    · obtain ⟨rfl, hnext⟩ := List.cons_prefix_cons.1 hfront
      cases s with
      | nil => exact absurd (List.cons_prefix_cons.1 hnext).1 hne
      | cons e s =>
        obtain ⟨rfl, -⟩ := List.cons_prefix_cons.1 hnext
        exact .inl ⟨[], s, rfl⟩
    · exact (ih hlater).imp_left fun hs => hs.trans (List.suffix_cons d s).isInfix

end Text

namespace RuleList

/-! ### What can be written -/

/-- A name that a rule list can hold: it is trimmed and holds nothing that ends a name. -/
structure IsRuleName (name : Text) : Prop where
  ne_nil : name ≠ []
  trimmed : Text.trim name = name
  comma_notMem : ',' ∉ name
  no_separator : ¬ ['-', '-'] <:+: name

instance (name : Text) : Decidable (IsRuleName name) :=
  decidable_of_iff (name ≠ [] ∧ Text.trim name = name ∧ ',' ∉ name ∧ ¬ ['-', '-'] <:+: name)
    ⟨fun ⟨hne, htrim, hcomma, hseparator⟩ => ⟨hne, htrim, hcomma, hseparator⟩,
      fun ⟨hne, htrim, hcomma, hseparator⟩ => ⟨hne, htrim, hcomma, hseparator⟩⟩

/-- A reason that a rule list can give. -/
structure IsReason (reason : Text) : Prop where
  ne_nil : reason ≠ []
  trimmed : Text.trim reason = reason

instance (reason : Text) : Decidable (IsReason reason) :=
  decidable_of_iff (reason ≠ [] ∧ Text.trim reason = reason)
    ⟨fun ⟨hne, htrim⟩ => ⟨hne, htrim⟩, fun ⟨hne, htrim⟩ => ⟨hne, htrim⟩⟩

/-- The names of a list with the offsets at which its text holds them, the first at `start`. -/
def placedFrom : Nat → List Text → List RuleMention
  | _, [] => []
  | start, name :: names => ⟨name, start⟩ :: placedFrom (start + name.length + 2) names

/-- A name stands behind those before it, each with its comma and its blank. -/
theorem mem_placedFrom (start : Nat) (before : List Text) (name : Text) (after : List Text) :
    ⟨name, start + (before.flatMap fun other => other ++ [',', ' ']).length⟩
      ∈ placedFrom start (before ++ name :: after) := by
  induction before generalizing start with
  | nil => exact List.mem_cons_self
  | cons other before ih =>
    refine List.mem_cons_of_mem _ ?_
    have hrest := ih (start + other.length + 2)
    rw [List.flatMap_cons, List.length_append, List.length_append, ← Nat.add_assoc, ← Nat.add_assoc]
    exact hrest

/-! ### The names -/

theorem joinWith_comma_blank (name : Text) (names : List Text) :
    Text.joinWith [',', ' '] (name :: names)
      = Text.joinWith [','] (name :: names.map fun other => ' ' :: other) := by
  induction names generalizing name with
  | nil => rfl
  | cons next names ih =>
    rw [List.map_cons, Text.joinWith, ih, Text.joinWith]
    cases names <;> simp [Text.joinWith]

/-- Entries behind a blank each are read as the names in them. -/
theorem mentionsFrom_blank_entries {names : List Text} (h : ∀ name ∈ names, IsRuleName name) (start : Nat) :
    mentionsFrom start (names.map fun name => ' ' :: name) = placedFrom (start + 1) names := by
  induction names generalizing start with
  | nil => rfl
  | cons name names ih =>
    have hname := h name List.mem_cons_self
    have htrim : Text.trim (' ' :: name) = name := by
      rw [Text.trim_blank_cons Text.isBlank_space, hname.trimmed]
    have hblanks : Text.leadingBlanks (' ' :: name) = 1 := by
      rw [Text.leadingBlanks_blank_cons Text.isBlank_space,
        Text.leadingBlanks_eq_zero (Text.trim_eq_self_iff.1 hname.trimmed).1]
    have hrest := ih (fun other hother => h other (List.mem_cons_of_mem _ hother))
      (start + (name.length + 1) + 1)
    have hempty : name.isEmpty = false := List.isEmpty_eq_false_iff.2 hname.ne_nil
    simp only [List.map_cons, mentionsFrom, htrim, hempty, hblanks, List.length_cons, placedFrom, hrest,
      Bool.false_eq_true, if_false]
    rw [show start + (name.length + 1) + 1 + 1 = start + 1 + name.length + 2 by omega]

theorem mentions_joinWith {names : List Text} (h : ∀ name ∈ names, IsRuleName name) :
    mentions (Text.joinWith [',', ' '] names) = placedFrom 0 names := by
  cases names with
  | nil => rfl
  | cons name names =>
    have hname := h name List.mem_cons_self
    have hnames : ∀ other ∈ names, IsRuleName other := fun other hother => h other (List.mem_cons_of_mem _ hother)
    have hpieces : ∀ piece ∈ name :: names.map (fun other => ' ' :: other), ',' ∉ piece := by
      intro piece hpiece
      rcases List.mem_cons.1 hpiece with rfl | hpiece
      · exact hname.comma_notMem
      · obtain ⟨other, hother, rfl⟩ := List.mem_map.1 hpiece
        rw [List.mem_cons, not_or]
        exact ⟨by decide, (hnames other hother).comma_notMem⟩
    have hblanks := Text.leadingBlanks_eq_zero (Text.trim_eq_self_iff.1 hname.trimmed).1
    have hempty : name.isEmpty = false := List.isEmpty_eq_false_iff.2 hname.ne_nil
    have hrest := mentionsFrom_blank_entries hnames (0 + name.length + 1)
    unfold mentions
    rw [joinWith_comma_blank, Text.splitOn_joinWith (List.cons_ne_nil _ _) hpieces]
    simp only [mentionsFrom, hname.trimmed, hempty, hblanks, placedFrom, hrest, Bool.false_eq_true, if_false]

/-! ### The reason -/

theorem no_separator_joinWith {names : List Text} (h : ∀ name ∈ names, IsRuleName name) :
    ¬ ['-', '-'] <:+: Text.joinWith [',', ' '] names := by
  induction names with
  | nil => simp [Text.joinWith]
  | cons name names ih =>
    have hname := (h name List.mem_cons_self).no_separator
    have hnames := ih fun other hother => h other (List.mem_cons_of_mem _ hother)
    cases names with
    | nil => exact hname
    | cons next names =>
      rw [Text.joinWith, List.append_assoc]
      intro hjoined
      rcases Text.doubled_of_append_cons (by decide) hjoined with hleft | hright
      · exact hname hleft
      · rcases Text.doubled_of_append_cons (s := []) (by decide) hright with hnone | hlater
        · simp at hnone
        · exact hnames hlater

theorem trimEnd_joinWith {names : List Text} (h : ∀ name ∈ names, IsRuleName name) :
    Text.trimEnd (Text.joinWith [',', ' '] names) = Text.joinWith [',', ' '] names := by
  induction names with
  | nil => rfl
  | cons name names ih =>
    have hnames := ih fun other hother => h other (List.mem_cons_of_mem _ hother)
    cases names with
    | nil => exact (Text.trim_eq_self_iff.1 (h name List.mem_cons_self).trimmed).2
    | cons next names =>
      have hne : Text.joinWith [',', ' '] (next :: names) ≠ [] := by
        have hnext := (h next (List.mem_cons_of_mem _ List.mem_cons_self)).ne_nil
        cases names with
        | nil => exact hnext
        | cons => simp [Text.joinWith]
      rw [Text.joinWith, Text.trimEnd_append_of_ne_nil (by rw [hnames]; exact hne), hnames]

theorem splitAtFirst?_render {names : List Text} (h : ∀ name ∈ names, IsRuleName name) (reason : Text) :
    Text.splitAtFirst? separator (render names (some reason))
      = some (Text.joinWith [',', ' '] names ++ [' '], ' ' :: reason) := by
  have hne : separator ≠ [] := by decide
  refine (Text.splitAtFirst?_eq_some_iff hne).2 ⟨by simp [render], fun j hj hprefix => ?_⟩
  -- two dashes in front of the separator would be its own first dash and what lies before it, or less
  have hinfix : ['-', '-'] <:+: Text.joinWith [',', ' '] names ++ ' ' :: ['-'] := by
    obtain ⟨rest, hrest⟩ := hprefix
    have hcut : (render names (some reason)).take (j + 2)
        = (render names (some reason)).take j ++ ['-', '-'] := by
      rw [List.take_add, ← hrest]
      rfl
    have hwhole : render names (some reason)
        = (Text.joinWith [',', ' '] names ++ ' ' :: ['-']) ++ ('-' :: ' ' :: reason) := by
      simp [render, separator]
    have hshort : j + 2 ≤ (Text.joinWith [',', ' '] names ++ ' ' :: ['-']).length := by
      simp only [List.length_append, List.length_cons, List.length_nil] at hj ⊢
      omega
    have hfront : (render names (some reason)).take (j + 2) <+: Text.joinWith [',', ' '] names ++ ' ' :: ['-'] := by
      rw [hwhole, List.take_append_of_le_length hshort]
      exact List.take_prefix _ _
    rw [hcut] at hfront
    exact (List.suffix_append _ _).isInfix.trans hfront.isInfix
  rcases Text.doubled_of_append_cons (by decide) hinfix with hnames | hdash
  · exact no_separator_joinWith h hnames
  · exact absurd hdash.length_le (by decide)

/-- A rendered list is read as it was written. -/
theorem parse_render {names : List Text} {justification : Option Text} (h : ∀ name ∈ names, IsRuleName name)
    (hreason : ∀ reason ∈ justification, IsReason reason) :
    parse (render names justification) = ⟨placedFrom 0 names, justification⟩ := by
  cases justification with
  | none =>
    have hnone : Text.splitAtFirst? separator (render names none) = none := by
      rw [Text.splitAtFirst?_eq_none_iff (by decide), render, List.append_nil]
      exact no_separator_joinWith h
    simp only [parse, hnone]
    rw [render, List.append_nil, mentions_joinWith h]
  | some reason =>
    have hgood := hreason reason rfl
    have hrules : Text.trimEnd (Text.joinWith [',', ' '] names ++ [' ']) = Text.joinWith [',', ' '] names := by
      rw [Text.trimEnd_append_of_blank (by simp [Text.isBlank_space]), trimEnd_joinWith h]
    have hgiven : reason? (' ' :: reason) = some reason := by
      have hempty : reason.isEmpty = false := List.isEmpty_eq_false_iff.2 hgood.ne_nil
      simp [reason?, Text.trim_blank_cons Text.isBlank_space, hgood.trimmed, hempty]
    simp only [parse, splitAtFirst?_render h, hrules, hgiven, mentions_joinWith h]

end RuleList

end SuppressionAudit

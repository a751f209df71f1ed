import SuppressionAudit.Proofs.Directive.Extraction
import SuppressionAudit.Proofs.Directive.ParsedLists

/-!
# Reasons of directives

Every suppression of a text is a rule that one directive names, and its reason is the one that this directive
gives. A directive gives a reason when anything but blanks stands behind its first two dashes. The directives of
the three forms, each with its own suppressions, make up the extraction in another order.
-/

namespace SuppressionAudit

/-! ### The reason in a body -/

namespace RuleList

/-- Only blanks stand behind the first two dashes of a body, if it has any. -/
def LacksReason (body : Text) : Prop :=
  ∀ before after, SplitsAtFirst separator body before after → ∀ c ∈ after, isBlank c = true

variable {body reason : Text}

theorem justification_eq (body : Text) :
    (parse body).justification = (Text.splitAtFirst? separator body).bind fun parts => reason? parts.2 := by
  unfold parse
  cases Text.splitAtFirst? separator body with
  | none => rfl
  | some parts => rfl

theorem justification_eq_none_iff : (parse body).justification = none ↔ LacksReason body := by
  have hne : separator ≠ [] := by decide
  rw [justification_eq, Option.bind_eq_none_iff]
  constructor
  · intro h before after hsplit
    have hnone := h (before, after) ((Text.splitAtFirst?_eq_some_iff hne).2 hsplit)
    exact reason?_eq_none_iff.1 hnone
  · intro h parts hparts
    have hsplit := (Text.splitAtFirst?_eq_some_iff hne).1 hparts
    exact reason?_eq_none_iff.2 (h parts.1 parts.2 hsplit)

theorem justification_eq_some_iff :
    (parse body).justification = some reason ↔
      reason ≠ [] ∧ ∃ before after, SplitsAtFirst separator body before after ∧ IsCore after reason := by
  have hne : separator ≠ [] := by decide
  rw [justification_eq, Option.bind_eq_some_iff]
  constructor
  · rintro ⟨parts, hparts, hreason⟩
    obtain ⟨hsome, hcore⟩ := reason?_eq_some_iff.1 hreason
    exact ⟨hsome, parts.1, parts.2, (Text.splitAtFirst?_eq_some_iff hne).1 hparts, hcore⟩
  · rintro ⟨hsome, before, after, hsplit, hcore⟩
    exact ⟨(before, after), (Text.splitAtFirst?_eq_some_iff hne).2 hsplit, reason?_eq_some_iff.2 ⟨hsome, hcore⟩⟩

end RuleList

/-! ### Directives of the three forms -/

/-- A directive in a text. -/
inductive Directive where
  | block (comment : BlockComment)
  | qualified (directive : QualifiedDirective)
  | line (directive : LineDirective)

namespace Directive

def body : Directive → Text
  | .block c => c.body
  | .qualified d => d.body
  | .line d => d.body

def suppressions (content : Text) : Directive → List Suppression
  | .block c => c.suppressions
  | .qualified d => d.suppressions content
  | .line d => d.suppressions

/-- Whether a directive lies in a text and is read there. Only a block directive whose opening slash ends another
one that is read is not. -/
def CountsIn (content : Text) : Directive → Prop
  | .block c => c.LiesIn content ∧ countsWithOwnSlash (Block.comments content) c
  | .qualified d => d.LiesIn content
  | .line d => d.LiesIn content

/-- The directives of a text, form by form. -/
def all (content : Text) : List Directive :=
  (Block.comments content).map .block ++ (Qualified.directives content).map .qualified ++
    (LineComment.directives content).map .line

variable {content : Text}

theorem mem_all_iff {d : Directive} : d ∈ all content ↔ d.CountsIn content := by
  cases d with
  | block c =>
    have hmem : .block c ∈ all content ↔ c ∈ Block.comments content := by simp [all]
    exact hmem.trans ((Block.comments_enumerate content).mem_iff c)
  | qualified d =>
    have hmem : .qualified d ∈ all content ↔ d ∈ Qualified.directives content := by simp [all]
    exact hmem.trans ((Qualified.directives_enumerate content).mem_iff d)
  | line d =>
    have hmem : .line d ∈ all content ↔ d ∈ LineComment.directives content := by simp [all]
    exact hmem.trans ((LineComment.directives_enumerate content).mem_iff d)

theorem nodup_all (content : Text) : (all content).Nodup := by
  have hblocks := (Block.comments_enumerate content).nodup
  have hqualified := (Qualified.directives_enumerate content).nodup
  have hlines := (LineComment.directives_enumerate content).nodup
  refine List.nodup_append.2 ⟨List.nodup_append.2 ⟨?_, ?_, ?_⟩, ?_, ?_⟩
  · exact hblocks.map fun _ _ => Directive.block.inj
  · exact hqualified.map fun _ _ => Directive.qualified.inj
  · simp
  · exact hlines.map fun _ _ => Directive.line.inj
  · intro other hother d hd
    obtain ⟨comment, -, rfl⟩ := List.mem_map.1 hd
    rintro rfl
    simp at hother

/-- The suppressions of all directives are the extraction, but for the order of the line forms. -/
theorem extractSuppressions_perm (content : Text) :
    (extractSuppressions content).Perm ((all content).flatMap (suppressions content)) := by
  have hsplit : (all content).flatMap (suppressions content)
      = Block.suppressions content ++ (Qualified.suppressions content ++ LineComment.suppressions content) := by
    rw [Block.suppressions_eq, Qualified.suppressions_eq, LineComment.suppressions_eq, all]
    simp only [List.flatMap_append, List.flatMap_map, List.append_assoc]
    rfl
  rw [hsplit, extractSuppressions, lineFormSuppressions]
  exact (stableSort_perm _ _).append_left _

theorem exists_mention {d : Directive} {s : Suppression} (h : s ∈ d.suppressions content) :
    ∃ mention ∈ (RuleList.parse d.body).rules,
      s.rule = mention.name ∧ s.justification = (RuleList.parse d.body).justification := by
  cases d with
  | block | qualified | line =>
    obtain ⟨mention, hmention, rfl⟩ := List.mem_map.1 h
    exact ⟨mention, hmention, rfl, rfl⟩

theorem exists_of_mem_extractSuppressions {s : Suppression} (h : s ∈ extractSuppressions content) :
    ∃ d : Directive, d.CountsIn content ∧ s ∈ d.suppressions content := by
  obtain ⟨d, hd, hs⟩ := List.mem_flatMap.1 ((extractSuppressions_perm content).mem_iff.1 h)
  exact ⟨d, mem_all_iff.1 hd, hs⟩

end Directive

end SuppressionAudit

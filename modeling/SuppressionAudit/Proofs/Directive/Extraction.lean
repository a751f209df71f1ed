import SuppressionAudit.Directive.Extraction
import SuppressionAudit.Proofs.Directive.BlockComments
import SuppressionAudit.Proofs.Directive.LineForms
import SuppressionAudit.Proofs.Sorting

/-!
# What an extraction holds

The suppressions of a text are described without a scan: the block directives that count, from left to
right, then the two line forms in the order of their positions, a qualified directive before a line
comment where both stand at one place. The description fits exactly one list, and the extraction is it.
A block directive counts unless its opening slash closes one that counts; such a slash ends a comment
and does not begin another.
-/

namespace SuppressionAudit

/-- `merged` holds suppressions in the order of their positions, those at one place as they stood. -/
structure MergedByPosition (found merged : List Suppression) : Prop where
  ordered : merged.Pairwise fun s t =>
    s.position.line < t.position.line ∨
      (s.position.line = t.position.line ∧ s.position.column ≤ t.position.column)
  kept : ∀ p, (merged.filter fun s => s.position = p) = found.filter fun s => s.position = p

/-- `result` holds the suppressions of a text, when it is told which block directives count among
those that are counted. -/
def ReadsSuppressions (counts : List BlockComment → BlockComment → Prop) (content : Text)
    (result : List Suppression) : Prop :=
  ∃ blocks qualified lines merged,
    Enumerates BlockComment.start (fun c => c.LiesIn content ∧ counts blocks c) blocks ∧
    Enumerates QualifiedDirective.start (QualifiedDirective.LiesIn content) qualified ∧
    Enumerates LineDirective.row (LineDirective.LiesIn content) lines ∧
    MergedByPosition (qualified.flatMap (QualifiedDirective.suppressions content)
      ++ lines.flatMap LineDirective.suppressions) merged ∧
    result = blocks.flatMap BlockComment.suppressions ++ merged

def countsAlways (_ : List BlockComment) (_ : BlockComment) : Prop := True

/-- A block directive counts unless its opening slash is the closing slash of one that counts. -/
def countsWithOwnSlash (counted : List BlockComment) (c : BlockComment) : Prop :=
  ∀ d ∈ counted, d.stop ≠ c.start + 1

/-! ### The order of positions -/

theorem Suppression.le_iff (s t : Suppression) :
    Suppression.le s t = true ↔ s.position.line < t.position.line ∨
      (s.position.line = t.position.line ∧ s.position.column ≤ t.position.column) := by
  simp [Suppression.le, Position.le]

theorem Suppression.ranks : Ranks Suppression.le := by
  constructor
  · intro s t
    rw [Suppression.le_iff, Suppression.le_iff]
    omega
  · intro s t u
    rw [Suppression.le_iff, Suppression.le_iff, Suppression.le_iff]
    omega

theorem Suppression.ties_iff (s t : Suppression) :
    ties Suppression.le s t = decide (t.position = s.position) := by
  obtain ⟨_, ⟨line, column⟩, _, _⟩ := s
  obtain ⟨_, ⟨line', column'⟩, _, _⟩ := t
  rw [Bool.eq_iff_iff]
  simp only [ties, Bool.and_eq_true, Suppression.le_iff, decide_eq_true_eq, Position.mk.injEq]
  omega

theorem mergedByPosition_iff {found merged : List Suppression} :
    MergedByPosition found merged ↔ StablySorts Suppression.le found merged := by
  constructor
  · rintro ⟨hordered, hkept⟩
    refine ⟨hordered.imp fun h => (Suppression.le_iff _ _).2 h, fun s => ?_⟩
    have hties : ties Suppression.le s = fun t => decide (t.position = s.position) :=
      funext (Suppression.ties_iff s)
    rw [hties]
    exact hkept s.position
  · rintro ⟨hordered, hkept⟩
    refine ⟨hordered.imp fun h => (Suppression.le_iff _ _).1 h, fun p => ?_⟩
    have hat := hkept ⟨[], p, none, .line⟩
    have hties : ties Suppression.le ⟨[], p, none, .line⟩ = fun t => decide (t.position = p) :=
      funext (Suppression.ties_iff _)
    rwa [hties] at hat

theorem mergedByPosition_iff_eq {found merged : List Suppression} :
    MergedByPosition found merged ↔ merged = stableSort Suppression.le found := by
  rw [mergedByPosition_iff]
  constructor
  · exact StablySorts.eq_stableSort Suppression.ranks
  · rintro rfl
    exact stablySorts_stableSort Suppression.ranks found

/-! ### The block directives that count -/

/-- Which block directives count is settled from left to right. -/
theorem counted_unique {content : Text} {blocks blocks' : List BlockComment}
    (h : Enumerates BlockComment.start (fun c => c.LiesIn content ∧ countsWithOwnSlash blocks c) blocks)
    (h' : Enumerates BlockComment.start
      (fun c => c.LiesIn content ∧ countsWithOwnSlash blocks' c) blocks') :
    blocks = blocks' := by
  -- by place: whether a directive counts depends on directives in front of it only
  have hmem : ∀ n, ∀ c : BlockComment, c.start = n → (c ∈ blocks ↔ c ∈ blocks') := by
    intro n
    induction n using Nat.strongRecOn with
    | ind n ih =>
      rintro c rfl
      rw [h.mem_iff, h'.mem_iff]
      refine and_congr_right fun _ => ?_
      -- a directive that ends with the opening slash opens before it
      have hearlier : ∀ d : BlockComment, d.LiesIn content → d.stop = c.start + 1 →
          (d ∈ blocks ↔ d ∈ blocks') := by
        intro d hd hstop
        have hlt := hd.start_lt_stop
        exact ih d.start (by omega) d rfl
      constructor
      · intro hcounts d hd hstop
        have hlies := ((h'.mem_iff d).1 hd).1
        exact hcounts d ((hearlier d hlies hstop).2 hd) hstop
      · intro hcounts d hd hstop
        have hlies := ((h.mem_iff d).1 hd).1
        exact hcounts d ((hearlier d hlies hstop).1 hd) hstop
  exact eq_of_ordered_of_mem_iff h.ordered h'.ordered fun c => hmem c.start c rfl

/-! ### The extraction -/

/-- A list is the extraction of a text exactly when it reads the directives of the text, each block
directive with an opening slash of its own. -/
theorem extractSuppressions_eq_iff_reads (content : Text) (result : List Suppression) :
    extractSuppressions content = result ↔ ReadsSuppressions countsWithOwnSlash content result := by
  have hblocks := Block.comments_enumerate content
  have hqualified := Qualified.directives_enumerate content
  have hlines := LineComment.directives_enumerate content
  have hextract : extractSuppressions content
      = (Block.comments content).flatMap BlockComment.suppressions
        ++ stableSort Suppression.le
          ((Qualified.directives content).flatMap (QualifiedDirective.suppressions content)
            ++ (LineComment.directives content).flatMap LineDirective.suppressions) := by
    rw [extractSuppressions, lineFormSuppressions, Block.suppressions_eq, Qualified.suppressions_eq,
      LineComment.suppressions_eq]
  constructor
  · rintro rfl
    exact ⟨_, _, _, _, hblocks, hqualified, hlines, mergedByPosition_iff_eq.2 rfl, hextract⟩
  · rintro ⟨blocks, qualified, lines, merged, hb, hq, hl, hmerged, rfl⟩
    rw [hextract, counted_unique hb hblocks, hq.unique hqualified, hl.unique hlines] at *
    rw [mergedByPosition_iff_eq.1 hmerged]

/-! ### A slash between two directives -/

def sharedSlash : Text := "/*eslint-disable a*/*eslint-disable b*/".toList

/-- If every block directive counted, the second one here would. -/
theorem sharedSlash_not_reads_always :
    ¬ ReadsSuppressions countsAlways sharedSlash (extractSuppressions sharedSlash) := by
  rintro ⟨blocks, qualified, lines, merged, hblocks, -, -, -, hresult⟩
  have hread : Block.comment? (sharedSlash.drop 19) = some (['b'], []) := by decide +kernel
  obtain ⟨hbody, hlies⟩ := Block.comment?_eq_some_iff.1 hread
  have hsecond : (⟨19, ['b'], 39⟩ : BlockComment) ∈ blocks :=
    (hblocks.mem_iff _).2 ⟨⟨hbody, by decide +kernel, hlies⟩, trivial⟩
  have hb : (⟨['b'], ⟨1, 1⟩, none, .block⟩ : Suppression) ∈ extractSuppressions sharedSlash := by
    rw [hresult]
    refine List.mem_append_left _ (List.mem_flatMap.2 ⟨_, hsecond, ?_⟩)
    decide +kernel
  have hone : extractSuppressions sharedSlash = [⟨['a'], ⟨1, 1⟩, none, .block⟩] := by decide +kernel
  rw [hone] at hb
  exact absurd hb (by decide)

end SuppressionAudit

import SuppressionAudit.Proofs.Directive.NameStarts
import SuppressionAudit.Proofs.Directive.Openings
import SuppressionAudit.Proofs.Directive.Seams

/-!
# Directives in the lists of others

A directive is looked for at every offset, so it may open among the rules of another one, and both lists are read.
The marker of the inner directive then belongs to a name of the outer one, and so does all that follows it up to
the next comma. From there on both directives name rules at the same places, as far as the rules of the outer one
go. Nothing else is named twice, and nothing else is reported twice at one place.
-/

namespace SuppressionAudit

/-! ### All rule lists of a text -/

/-- The rule lists of the line forms of a text and the offsets at which they start. -/
def ruleLists (content : Text) : List (Nat × Text) :=
  (Qualified.directives content).map (fun d => (d.bodyStart, d.body)) ++
    (LineComment.directives content).map fun d =>
      (rowStart (List.splitOn '\n' content) d.row + d.bodyStart, d.body)

/-- The rules in them, each with the start of its list. -/
def namings (content : Text) : List (Nat × RuleMention) :=
  (ruleLists content).flatMap fun list => (RuleList.parse list.2).rules.map fun mention => (list.1, mention)

section

variable {content body : Text} {bodyStart : Nat}

theorem mem_ruleLists_iff : (bodyStart, body) ∈ ruleLists content ↔ HoldsRuleList content bodyStart body := by
  have hqualified := (Qualified.directives_enumerate content).mem_iff
  have hlines := (LineComment.directives_enumerate content).mem_iff
  rw [ruleLists, List.mem_append, List.mem_map, List.mem_map]
  constructor
  · rintro (⟨d, hd, heq⟩ | ⟨d, hd, heq⟩)
    · cases heq
      exact .inl ⟨d.start, (hqualified d).1 hd⟩
    · cases heq
      exact .inr ⟨d.row, d.bodyStart, (hlines d).1 hd, rfl⟩
  · rintro (⟨start, hlies⟩ | ⟨row, column, hlies, rfl⟩)
    · exact .inl ⟨_, (hqualified _).2 hlies, rfl⟩
    · exact .inr ⟨_, (hlines _).2 hlies, rfl⟩

theorem LineDirective.LiesIn.standsAt {d : LineDirective} (h : d.LiesIn content) {n : Nat}
    (hn : n ≤ d.body.length) :
    StandsAt content (rowStart (List.splitOn '\n' content) d.row + d.bodyStart + n)
      ⟨d.row + 1, d.bodyStart + n + 1⟩ := by
  obtain ⟨before, line, after, start, hcut, hle, hbody, -⟩ := h.cut
  rw [hbody, List.length_drop] at hn
  rw [← hcut.start, Nat.add_assoc]
  exact hcut.standsAt (by omega)

/-- No two rule lists start at one offset. -/
theorem nodup_starts (content : Text) : ((ruleLists content).map Prod.fst).Nodup := by
  have hqualified := Qualified.directives_enumerate content
  have hlines := LineComment.directives_enumerate content
  rw [ruleLists, List.map_append, List.map_map, List.map_map, List.nodup_append]
  refine ⟨?_, ?_, ?_⟩
  · refine List.pairwise_map.2 (hqualified.ordered.imp_of_mem fun {d e} hd he hlt => ?_)
    have hfirst := (hqualified.mem_iff d).1 hd
    have hsecond := (hqualified.mem_iff e).1 he
    have hmarks : MarksAt content e.start e.bodyStart := ⟨hsecond.1, .inl hsecond.2.1⟩
    have hle := MarksAt.apart ⟨hfirst.1, .inl hfirst.2.1⟩ hmarks hlt
    have hlong := hmarks.opensAt.long
    dsimp only [Function.comp_apply]
    omega
  · refine List.pairwise_map.2 (hlines.ordered.imp_of_mem fun {d e} hd he hlt heq => ?_)
    -- at one offset they would stand in one row
    have hfirst := ((hlines.mem_iff d).1 hd).standsAt (Nat.zero_le _)
    have hsecond := ((hlines.mem_iff e).1 he).standsAt (Nat.zero_le _)
    dsimp only [Function.comp_apply] at heq
    rw [heq] at hfirst
    have hrow := congrArg Position.line (hfirst.unique hsecond)
    dsimp only at hrow
    omega
  · intro low hlow high hhigh heq
    obtain ⟨d, hd, rfl⟩ := List.mem_map.1 hlow
    obtain ⟨e, he, rfl⟩ := List.mem_map.1 hhigh
    dsimp only [Function.comp_apply] at heq
    obtain ⟨hle, hread, -⟩ := (hqualified.mem_iff d).1 hd
    obtain ⟨hle', start, hcomment⟩ := ((hlines.mem_iff e).1 he).reads
    rw [heq] at hle hread
    have hsame := MarksAt.start_unique ⟨hle, .inl hread⟩ ⟨hle', .inr hcomment⟩
    exact hread.not_readsLineComment (hsame ▸ hcomment)

theorem increasing_offsets (body : Text) :
    (RuleList.parse body).rules.Pairwise fun mention next => mention.offset < next.offset := by
  obtain ⟨rules, behind, hdivides⟩ := RuleList.exists_divides body
  exact hdivides.says.increasing

theorem nodup_namings (content : Text) : (namings content).Nodup := by
  have hstarts : (ruleLists content).Pairwise fun a b => a.1 ≠ b.1 := List.pairwise_map.1 (nodup_starts content)
  refine List.nodup_flatMap.2 ⟨fun list _ => ?_, hstarts.imp fun {a b} hne => ?_⟩
  · refine List.pairwise_map.2 ((increasing_offsets list.2).imp fun {mention next} hlt heq => ?_)
    have hsame := congrArg (fun naming => naming.2.offset) heq
    dsimp only at hsame
    omega
  · intro naming hfirst hsecond
    obtain ⟨mention, -, rfl⟩ := List.mem_map.1 hfirst
    obtain ⟨next, -, heq⟩ := List.mem_map.1 hsecond
    exact hne (congrArg Prod.fst heq).symm

theorem mem_namings_iff {mention : RuleMention} :
    (bodyStart, mention) ∈ namings content ↔
      ∃ body, HoldsRuleList content bodyStart body ∧ mention ∈ (RuleList.parse body).rules := by
  rw [namings, List.mem_flatMap]
  constructor
  · rintro ⟨⟨start, body⟩, hlist, hmem⟩
    obtain ⟨other, hmention, heq⟩ := List.mem_map.1 hmem
    cases heq
    exact ⟨body, mem_ruleLists_iff.1 hlist, hmention⟩
  · rintro ⟨body, hholds, hmention⟩
    exact ⟨(bodyStart, body), mem_ruleLists_iff.2 hholds, List.mem_map_of_mem hmention⟩

theorem HoldsRuleList.unique {other : Text} (h : HoldsRuleList content bodyStart body)
    (hother : HoldsRuleList content bodyStart other) : body = other :=
  congrArg Prod.snd
    (List.inj_on_of_nodup_map (nodup_starts content) (mem_ruleLists_iff.2 h) (mem_ruleLists_iff.2 hother) rfl)

theorem HoldsRuleList.inside {mention : RuleMention} (h : HoldsRuleList content bodyStart body)
    (hmention : mention ∈ (RuleList.parse body).rules) : bodyStart + mention.offset ≤ content.length := by
  obtain ⟨start, hle, -⟩ := h.marksAt
  have hlen := h.body_prefix.length_le
  have hoffset := (RuleList.writes_of_mem_parse hmention).offset_le
  rw [List.length_drop] at hlen
  omega

/-- The line forms are reported at the offsets at which their directives name rules. -/
theorem positions_perm (content : Text) :
    (((extractSuppressions content).filter fun s => s.kind = .line).map Suppression.position).Perm
      ((namings content).map fun naming => positionAt content (naming.1 + naming.2.offset)) := by
  have hlines : ∀ d ∈ LineComment.directives content, d.suppressions.map Suppression.position
      = (RuleList.parse d.body).rules.map fun mention =>
          positionAt content (rowStart (List.splitOn '\n' content) d.row + d.bodyStart + mention.offset) := by
    intro d hd
    have hlies := ((LineComment.directives_enumerate content).mem_iff d).1 hd
    rw [LineDirective.suppressions, List.map_map]
    refine List.map_congr_left fun mention hmention => ?_
    have hholds : HoldsRuleList content _ d.body := .inr ⟨d.row, d.bodyStart, hlies, rfl⟩
    have hstands := hlies.standsAt (RuleList.writes_of_mem_parse hmention).offset_le
    exact hstands.unique (standsAt_positionAt (hholds.inside hmention))
  rw [filter_line_extractSuppressions, lineFormSuppressions]
  refine ((stableSort_perm _ _).map _).trans (List.Perm.of_eq ?_)
  rw [Qualified.suppressions_eq, LineComment.suppressions_eq, namings, ruleLists]
  simp only [List.map_append, List.map_flatMap, List.flatMap_append, List.flatMap_map, List.map_map]
  refine congrArg₂ _ ?_ ?_
  · refine List.flatMap_congr fun d _ => ?_
    rw [QualifiedDirective.suppressions, List.map_map]
    rfl
  · refine List.flatMap_congr fun d hd => ?_
    rw [hlines d hd]
    rfl

end

/-! ### Names in two lists -/

/-- The list of a directive starts at `low`, and its rules end at `high`. -/
def HoldsRules (content : Text) (low high : Nat) : Prop :=
  ∃ body rules behind, HoldsRuleList content low body ∧ RuleList.Divides body rules behind ∧
    high = low + rules.length

/-- The directive whose list starts at `bodyStart` names a rule at an offset. -/
def NamesRule (content : Text) (bodyStart offset : Nat) : Prop :=
  ∃ body mention, HoldsRuleList content bodyStart body ∧ mention ∈ (RuleList.parse body).rules ∧
    offset = bodyStart + mention.offset

/-- A directive names a rule at an offset, behind a comma in its own list, and the rules of a directive before it
go on up to there. -/
def NamedTwice (content : Text) (offset : Nat) : Prop :=
  ∃ outer high inner comma, HoldsRules content outer high ∧ NamesRule content inner offset ∧ outer < inner ∧
    inner ≤ comma ∧ comma < offset ∧ content[comma]? = some ',' ∧ offset < high

section

variable {content : Text} {low high offset : Nat}

theorem HoldsRules.namesRule_iff (h : HoldsRules content low high) :
    NamesRule content low offset ↔ StartsName content low high offset := by
  obtain ⟨body, rules, behind, hholds, hdivides, rfl⟩ := h
  have hrules : (RuleList.parse body).rules = RuleList.mentions rules := by rw [hdivides.parse_eq]
  have hprefix : rules <+: content.drop low := hdivides.isPrefix.trans hholds.body_prefix
  constructor
  · rintro ⟨other, mention, hother, hmention, rfl⟩
    obtain rfl := hother.unique hholds
    rw [hrules] at hmention
    exact (StartsName.of_prefix_drop hprefix).2 (RuleList.offset_mem_mentions_iff.1 ⟨mention, hmention, rfl⟩)
  · intro h
    obtain ⟨further, rfl⟩ : ∃ further, offset = low + further := ⟨offset - low, by have := h.low_le; omega⟩
    have hstarts := (StartsName.of_prefix_drop hprefix).1 h
    obtain ⟨mention, hmention, rfl⟩ := RuleList.offset_mem_mentions_iff.2 hstarts
    exact ⟨body, mention, hholds, hrules ▸ hmention, rfl⟩

theorem NamesRule.holdsRules (h : NamesRule content low offset) : ∃ high, HoldsRules content low high := by
  obtain ⟨body, -, hholds, -⟩ := h
  obtain ⟨rules, behind, hdivides⟩ := RuleList.exists_divides body
  exact ⟨_, body, rules, behind, hholds, hdivides, rfl⟩

theorem HoldsRules.marksAt (h : HoldsRules content low high) : ∃ start, MarksAt content start low := by
  obtain ⟨body, -, -, hholds, -⟩ := h
  exact hholds.marksAt

theorem namedTwice_iff :
    NamedTwice content offset ↔
      ∃ outer inner, outer < inner ∧ NamesRule content outer offset ∧ NamesRule content inner offset := by
  -- what an inner directive says of an outer one, whose list its marker lies in
  have houter : ∀ {outer high inner}, HoldsRules content outer high → NamesRule content inner offset →
      outer < inner → (NamesRule content outer offset ↔ offset < high ∧
        ∃ comma, inner ≤ comma ∧ comma < offset ∧ content[comma]? = some ',') := by
    intro outer high inner hrules hinner hlt
    obtain ⟨highInside, hinside⟩ := hinner.holdsRules
    obtain ⟨start, hmarks⟩ := hrules.marksAt
    obtain ⟨start', hmarks'⟩ := hinside.marksAt
    have hopens := hmarks'.opensAt
    have hlong := hopens.long
    rw [hrules.namesRule_iff]
    exact (hinside.namesRule_iff.1 hinner).outer_iff (hmarks.behind hmarks' hlt) (by omega) hopens.slash (by decide)
      fun j hle hj => hopens.comma_free hle hj
  constructor
  · rintro ⟨outer, high, inner, comma, hrules, hinner, hlt, hle, hcomma, hget, hhigh⟩
    exact ⟨outer, inner, hlt, (houter hrules hinner hlt).2 ⟨hhigh, comma, hle, hcomma, hget⟩, hinner⟩
  · rintro ⟨outer, inner, hlt, hnamed, hinner⟩
    obtain ⟨high, hrules⟩ := hnamed.holdsRules
    obtain ⟨hhigh, comma, hle, hcomma, hget⟩ := (houter hrules hinner hlt).1 hnamed
    exact ⟨outer, high, inner, comma, hrules, hinner, hlt, hle, hcomma, hget, hhigh⟩

theorem mem_namings_iff_namesRule {bodyStart : Nat} :
    (∃ naming ∈ namings content, naming.1 = bodyStart ∧ naming.1 + naming.2.offset = offset) ↔
      NamesRule content bodyStart offset := by
  constructor
  · rintro ⟨⟨start, mention⟩, hmem, rfl, rfl⟩
    obtain ⟨body, hholds, hmention⟩ := mem_namings_iff.1 hmem
    exact ⟨body, mention, hholds, hmention, rfl⟩
  · rintro ⟨body, mention, hholds, hmention, rfl⟩
    exact ⟨(bodyStart, mention), mem_namings_iff.2 ⟨body, hholds, hmention⟩, rfl, rfl⟩

/-- One directive names no two rules at one offset. -/
theorem naming_eq_of_offset_eq {first second : Nat × RuleMention} (hfirst : first ∈ namings content)
    (hsecond : second ∈ namings content) (hlist : first.1 = second.1)
    (hoffset : first.1 + first.2.offset = second.1 + second.2.offset) : first = second := by
  obtain ⟨start, mention⟩ := first
  obtain ⟨start', next⟩ := second
  obtain rfl : start = start' := hlist
  obtain ⟨body, hholds, hmention⟩ := mem_namings_iff.1 hfirst
  obtain ⟨other, hother, hnext⟩ := mem_namings_iff.1 hsecond
  obtain rfl := hholds.unique hother
  have hsame : mention.offset = next.offset := by
    dsimp only at hoffset
    omega
  have hnodup : ((RuleList.parse body).rules.map RuleMention.offset).Nodup :=
    List.pairwise_map.2 ((increasing_offsets body).imp fun hlt => Nat.ne_of_lt hlt)
  rw [List.inj_on_of_nodup_map hnodup hmention hnext hsame]

end

/-! ### How often a place is reported -/

/-- Whether a suppression of a line form stands at a position. -/
def Suppression.isLineAt (p : Position) (s : Suppression) : Bool := s.kind = .line ∧ s.position = p

theorem one_lt_countP_iff {α : Type} {xs : List α} (h : xs.Nodup) (holds : α → Bool) :
    1 < xs.countP holds ↔ ∃ a ∈ xs, ∃ b ∈ xs, a ≠ b ∧ holds a = true ∧ holds b = true := by
  have hmem : ∀ a, a ∈ xs.filter holds ↔ a ∈ xs ∧ holds a = true := fun a => List.mem_filter
  have hfilter : (xs.filter holds).Nodup := h.filter holds
  rw [List.countP_eq_length_filter]
  generalize xs.filter holds = found at hmem hfilter
  constructor
  · intro hlength
    match found, hlength with
    | a :: b :: rest, _ =>
      obtain ⟨ha, hholdsa⟩ := (hmem a).1 List.mem_cons_self
      obtain ⟨hb, hholdsb⟩ := (hmem b).1 (List.mem_cons_of_mem _ List.mem_cons_self)
      refine ⟨a, ha, b, hb, ?_, hholdsa, hholdsb⟩
      rintro rfl
      exact (List.nodup_cons.1 hfilter).1 List.mem_cons_self
  · rintro ⟨a, ha, b, hb, hne, hholdsa, hholdsb⟩
    have hfirst := (hmem a).2 ⟨ha, hholdsa⟩
    have hsecond := (hmem b).2 ⟨hb, hholdsb⟩
    match found with
    | [] => exact absurd hfirst List.not_mem_nil
    | [c] => exact absurd ((List.mem_singleton.1 hfirst).trans (List.mem_singleton.1 hsecond).symm) hne
    | c :: d :: rest => simp

theorem countP_isLineAt (content : Text) (p : Position) :
    (extractSuppressions content).countP (Suppression.isLineAt p)
      = (namings content).countP fun naming => positionAt content (naming.1 + naming.2.offset) = p := by
  have hperm := (positions_perm content).countP_eq fun q => q = p
  rw [List.countP_map, List.countP_map, List.countP_filter] at hperm
  have hkinds : (extractSuppressions content).countP (Suppression.isLineAt p)
      = (extractSuppressions content).countP fun s => ((fun q => decide (q = p)) ∘ Suppression.position) s
          && decide (s.kind = .line) := by
    refine List.countP_congr fun s _ => ?_
    simp [Suppression.isLineAt, and_comm]
  rw [hkinds, hperm]
  rfl

/-- Line forms are reported twice at one position exactly where a rule is named twice. -/
theorem one_lt_countP_isLineAt_iff (content : Text) (p : Position) :
    1 < (extractSuppressions content).countP (Suppression.isLineAt p) ↔
      ∃ offset, NamedTwice content offset ∧ StandsAt content offset p := by
  have hstands : ∀ naming ∈ namings content, StandsAt content (naming.1 + naming.2.offset)
      (positionAt content (naming.1 + naming.2.offset)) := by
    rintro ⟨start, mention⟩ hmem
    obtain ⟨body, hholds, hmention⟩ := mem_namings_iff.1 hmem
    exact standsAt_positionAt (hholds.inside hmention)
  rw [countP_isLineAt, one_lt_countP_iff (nodup_namings content)]
  simp only [decide_eq_true_eq]
  constructor
  · rintro ⟨first, hfirst, second, hsecond, hne, hp, hp'⟩
    have hoffset : first.1 + first.2.offset = second.1 + second.2.offset :=
      (hstands first hfirst).offset_unique (hp.trans hp'.symm ▸ hstands second hsecond)
    have hnamed := mem_namings_iff_namesRule.1 ⟨first, hfirst, rfl, rfl⟩
    have hnamed' := mem_namings_iff_namesRule.1 ⟨second, hsecond, rfl, hoffset.symm⟩
    refine ⟨_, namedTwice_iff.2 ?_, hp ▸ hstands first hfirst⟩
    rcases Nat.lt_trichotomy first.1 second.1 with hlt | heq | hgt
    · exact ⟨_, _, hlt, hnamed, hnamed'⟩
    · exact absurd (naming_eq_of_offset_eq hfirst hsecond heq hoffset) hne
    · exact ⟨_, _, hgt, hnamed', hnamed⟩
  · rintro ⟨offset, htwice, hp⟩
    obtain ⟨outer, inner, hlt, houter, hinner⟩ := namedTwice_iff.1 htwice
    obtain ⟨first, hfirst, rfl, hoffset⟩ := mem_namings_iff_namesRule.2 houter
    obtain ⟨second, hsecond, rfl, hoffset'⟩ := mem_namings_iff_namesRule.2 hinner
    refine ⟨first, hfirst, second, hsecond, ?_, ?_, ?_⟩
    · rintro rfl
      omega
    · exact (hstands first hfirst).unique (hoffset ▸ hp)
    · exact (hstands second hsecond).unique (hoffset' ▸ hp)

end SuppressionAudit

import Mathlib.Data.List.Forall2
import SuppressionAudit.Proofs.Directive.RenderedLists
import SuppressionAudit.Proofs.Directive.RuleLists

/-!
# Parsed rule lists

What the body of a directive says, told from its text alone. The first two dashes divide it. In front of the
blanks before them the text between two commas names a rule, unless it is blank; what stands behind them is the
reason, unless it is blank. The list that is read from a body says this and nothing else, and gives each name
the place where it is written.
-/

namespace SuppressionAudit

namespace RuleList

/-! ### What a body says -/

/-- How the first two dashes divide a body. `rules` is what stands in front of the blanks before them, and
`behind` what stands behind them; a body without two dashes is all `rules`. -/
inductive Divides (body : Text) : Text → Option Text → Prop
  | whole (h : ¬ separator <:+: body) : Divides body body none
  | dashes {rules blanks after : Text} (first : SplitsAtFirst separator body (rules ++ blanks) after)
      (blank : ∀ c ∈ blanks, isBlank c = true) (last : ∀ c, rules.getLast? = some c → isBlank c = false) :
      Divides body rules (some after)

/-- What a rule list has to say when its body is divided into `rules` and what stands behind the dashes. -/
structure Says (body rules : Text) (behind : Option Text) (list : RuleList) : Prop where
  names : ∃ entries cores, Text.joinWith [','] entries = rules ∧ entries ≠ [] ∧ (∀ entry ∈ entries, ',' ∉ entry) ∧
    List.Forall₂ IsCore entries cores ∧ list.names = cores.filter fun core => !core.isEmpty
  wellFormed : ∀ mention ∈ list.rules, IsRuleName mention.name
  written : ∀ mention ∈ list.rules, (body.drop mention.offset).take mention.name.length = mention.name
  inside : ∀ mention ∈ list.rules, mention.offset + mention.name.length ≤ rules.length
  increasing : list.rules.Pairwise fun mention next => mention.offset < next.offset
  apart : list.rules.Pairwise fun mention next => ∃ place,
    mention.offset + mention.name.length ≤ place ∧ place < next.offset ∧ body[place]? = some ','
  unjustified : list.justification = none ↔
    ¬ separator <:+: body ∨ ∃ after ∈ behind, ∀ c ∈ after, isBlank c = true
  justified : ∀ reason, list.justification = some reason ↔
    reason ≠ [] ∧ ∃ after ∈ behind, IsCore after reason

theorem exists_divides (body : Text) : ∃ rules behind, Divides body rules behind := by
  have hne : separator ≠ [] := by decide
  cases hsplit : Text.splitAtFirst? separator body with
  | none => exact ⟨body, none, .whole ((Text.splitAtFirst?_eq_none_iff hne).1 hsplit)⟩
  | some parts =>
    obtain ⟨front, after⟩ := parts
    have hfirst := (Text.splitAtFirst?_eq_some_iff hne).1 hsplit
    obtain ⟨blanks, hblanks, hblank⟩ := Text.trimEnd_append_blanks front
    rw [hblanks] at hfirst
    exact ⟨Text.trimEnd front, some after, .dashes hfirst hblank (Text.not_isBlank_last_trimEnd front)⟩

variable {body rules : Text} {behind : Option Text}

/-- However a body is divided, what is read from it comes from its two parts. -/
theorem Divides.parse_eq (h : Divides body rules behind) : parse body = ⟨mentions rules, behind.bind reason?⟩ := by
  have hne : separator ≠ [] := by decide
  cases h with
  | whole hnot =>
    have hnone := (Text.splitAtFirst?_eq_none_iff hne).2 hnot
    simp only [parse, hnone, Option.bind_none]
  | dashes hfirst hblank hlast =>
    have hsplit := (Text.splitAtFirst?_eq_some_iff hne).2 hfirst
    simp only [parse, hsplit, Text.trimEnd_append_of_blank hblank, Text.trimEnd_eq_self hlast, Option.bind_some]

theorem Divides.isPrefix (h : Divides body rules behind) : rules <+: body := by
  cases h with
  | whole => exact List.prefix_refl _
  | dashes hfirst =>
    rw [hfirst.eq, List.append_assoc, List.append_assoc]
    exact List.prefix_append _ _

theorem Divides.no_separator (h : Divides body rules behind) : ¬ separator <:+: rules := by
  cases h with
  | whole hnot => exact hnot
  | @dashes rules blanks after hfirst =>
    -- dashes among the rules would stand before the first ones
    rintro ⟨before, more, heq⟩
    have hlen := congrArg List.length heq
    have htwo : separator.length = 2 := rfl
    simp only [List.length_append] at hlen
    have hplace : before.length < (rules ++ blanks).length := by
      rw [List.length_append]
      omega
    refine hfirst.first before.length hplace ⟨more ++ blanks ++ separator ++ after, ?_⟩
    rw [hfirst.eq, ← heq]
    simp only [List.append_assoc, List.drop_left]

/-! ### The names -/

theorem names_mentionsFrom (start : Nat) (entries : List Text) :
    (mentionsFrom start entries).map RuleMention.name = (entries.map Text.trim).filter fun name => !name.isEmpty := by
  induction entries generalizing start with
  | nil => rfl
  | cons entry entries ih =>
    cases hempty : (Text.trim entry).isEmpty with
    | true => simp [mentionsFrom, hempty, ih]
    | false => simp [mentionsFrom, hempty, ih]

theorem exists_entry_of_mem_mentions {s : Text} {mention : RuleMention} (h : mention ∈ mentions s) :
    ∃ entry ∈ Text.splitOn ',' s, Text.trim entry = mention.name ∧ mention.name ≠ [] := by
  have hname : mention.name ∈ (mentions s).map RuleMention.name := List.mem_map_of_mem h
  rw [mentions, names_mentionsFrom] at hname
  obtain ⟨hmem, hempty⟩ := List.mem_filter.1 hname
  obtain ⟨entry, hentry, htrim⟩ := List.mem_map.1 hmem
  exact ⟨entry, hentry, htrim, by simpa using hempty⟩

theorem isRuleName_of_mem_mentions {s : Text} (hnone : ¬ separator <:+: s) {mention : RuleMention}
    (h : mention ∈ mentions s) : IsRuleName mention.name := by
  obtain ⟨entry, hentry, htrim, hne⟩ := exists_entry_of_mem_mentions h
  have hpart : mention.name <:+: entry := htrim ▸ Text.trim_isInfix entry
  have hwhole : entry <:+: s := by
    have hjoined : entry <:+: Text.joinWith [','] (Text.splitOn ',' s) := Text.infix_joinWith hentry
    rwa [Text.joinWith_splitOn] at hjoined
  refine ⟨hne, ?_, ?_, ?_⟩
  · rw [← htrim, Text.trim_trim]
  · intro hcomma
    exact Text.notMem_of_mem_splitOn hentry (hpart.subset hcomma)
  · intro hdashes
    exact hnone ((hdashes.trans hpart).trans hwhole)

/-! ### The places -/

theorem start_le_of_mem_mentionsFrom {start : Nat} {entries : List Text} {mention : RuleMention}
    (h : mention ∈ mentionsFrom start entries) : start ≤ mention.offset := by
  obtain ⟨before, after, -, hlen⟩ := writes_of_mem_mentionsFrom h
  omega

/-- The comma behind an entry lies between its name and every later one. -/
theorem commas_mentionsFrom (start : Nat) (entries : List Text) :
    (mentionsFrom start entries).Pairwise fun mention next => ∃ place,
      mention.offset + mention.name.length ≤ start + place ∧ start + place < next.offset ∧
        (Text.joinWith [','] entries)[place]? = some ',' := by
  induction entries generalizing start with
  | nil => exact List.Pairwise.nil
  | cons entry entries ih =>
    cases entries with
    | nil =>
      simp only [mentionsFrom]
      split
      · exact List.Pairwise.nil
      · exact List.pairwise_singleton _ _
    | cons second entries =>
      have hcomma : (Text.joinWith [','] (entry :: second :: entries))[entry.length]? = some ',' := by
        simp [Text.joinWith]
      have hlater : (mentionsFrom (start + entry.length + 1) (second :: entries)).Pairwise fun mention next =>
          ∃ place, mention.offset + mention.name.length ≤ start + place ∧ start + place < next.offset ∧
            (Text.joinWith [','] (entry :: second :: entries))[place]? = some ',' := by
        refine (ih (start + entry.length + 1)).imp ?_
        rintro mention next ⟨place, hbefore, hbehind, hplace⟩
        refine ⟨entry.length + 1 + place, by omega, by omega, ?_⟩
        rw [Text.joinWith, List.append_assoc, List.getElem?_append_right (by omega)]
        rw [show entry.length + 1 + place - entry.length = place + 1 by omega]
        exact hplace
      rw [mentionsFrom]
      split
      · exact hlater
      · refine List.pairwise_cons.2 ⟨fun next hnext => ⟨entry.length, ?_, ?_, hcomma⟩, hlater⟩
        · have hfits := Text.leadingBlanks_add_length_trim_le entry
          dsimp only
          omega
        · have hstart := start_le_of_mem_mentionsFrom hnext
          omega

/-! ### The reason -/

theorem reason?_eq_none_iff {s : Text} : reason? s = none ↔ ∀ c ∈ s, isBlank c = true := by
  rw [← Text.isCore_nil_iff, Text.isCore_iff]
  cases h : Text.trim s with
  | nil => simp [reason?, h]
  | cons c rest => simp [reason?, h]

theorem reason?_eq_some_iff {s reason : Text} : reason? s = some reason ↔ reason ≠ [] ∧ IsCore s reason := by
  rw [Text.isCore_iff]
  cases h : Text.trim s with
  | nil => simp [reason?, h, eq_comm]
  | cons c rest =>
    constructor
    · intro hreason
      obtain rfl : c :: rest = reason := by simpa [reason?, h] using hreason
      exact ⟨List.cons_ne_nil _ _, rfl⟩
    · rintro ⟨-, rfl⟩
      simp [reason?, h]

/-! ### The whole list -/

theorem Divides.says (h : Divides body rules behind) : Says body rules behind (parse body) := by
  have hmentions : (parse body).rules = mentions rules := by rw [h.parse_eq]
  have hjustification : (parse body).justification = behind.bind reason? := by rw [h.parse_eq]
  have hlength := h.isPrefix.length_le
  have hcommas := commas_mentionsFrom 0 (Text.splitOn ',' rules)
  rw [Text.joinWith_splitOn] at hcommas
  refine ⟨?_, ?_, ?_, ?_, ?_, ?_, ?_, ?_⟩
  · refine ⟨Text.splitOn ',' rules, (Text.splitOn ',' rules).map Text.trim, Text.joinWith_splitOn ',' rules,
      Text.splitOn_ne_nil ',' rules, fun entry hentry => Text.notMem_of_mem_splitOn hentry, ?_, ?_⟩
    · rw [List.forall₂_map_right_iff, List.forall₂_same]
      exact fun entry _ => Text.isCore_trim entry
    · rw [names, hmentions, mentions, names_mentionsFrom]
  · intro mention hmention
    rw [hmentions] at hmention
    exact isRuleName_of_mem_mentions h.no_separator hmention
  · intro mention hmention
    have hwrites := (writes_of_mem_parse hmention).take_drop (List.prefix_refl (body.drop 0))
    rwa [Nat.zero_add] at hwrites
  · intro mention hmention
    rw [hmentions] at hmention
    obtain ⟨before, after, hrules, hoffset⟩ := writes_of_mem_mentions hmention
    have hlen := congrArg List.length hrules
    simp only [List.length_append] at hlen
    omega
  · rw [hmentions]
    refine hcommas.imp ?_
    rintro mention next ⟨place, hbefore, hbehind, -⟩
    omega
  · rw [hmentions]
    refine hcommas.imp ?_
    rintro mention next ⟨place, hbefore, hbehind, hplace⟩
    have hlt : place < rules.length := (List.getElem?_eq_some_iff.1 hplace).1
    refine ⟨place, by omega, by omega, ?_⟩
    obtain ⟨rest, hrest⟩ := h.isPrefix
    rw [← hrest, List.getElem?_append_left hlt]
    exact hplace
  · rw [hjustification]
    cases h with
    | whole hnot => simp [hnot]
    | dashes hfirst =>
      have hhas : separator <:+: body := ⟨_, _, hfirst.eq.symm⟩
      simp [reason?_eq_none_iff, hhas]
  · intro reason
    rw [hjustification]
    cases behind with
    | none => simp
    | some after => simp [reason?_eq_some_iff]

/-! ### The canonical text of a list -/

theorem isRuleName_of_mem_names {name : Text} (h : name ∈ (parse body).names) : IsRuleName name := by
  obtain ⟨rules, behind, hdivides⟩ := exists_divides body
  obtain ⟨mention, hmention, rfl⟩ := List.mem_map.1 h
  exact hdivides.says.wellFormed mention hmention

theorem isReason_of_mem_justification {reason : Text} (h : reason ∈ (parse body).justification) :
    IsReason reason := by
  obtain ⟨rules, behind, hdivides⟩ := exists_divides body
  have hlist := hdivides.says
  obtain ⟨hne, after, -, hcore⟩ := (hlist.justified reason).1 h
  have htrim : Text.trim after = reason := Text.isCore_iff.1 hcore
  refine ⟨hne, ?_⟩
  rw [← htrim, Text.trim_trim]

theorem names_placedFrom (start : Nat) (names : List Text) :
    (placedFrom start names).map RuleMention.name = names := by
  induction names generalizing start with
  | nil => rfl
  | cons name names ih => rw [placedFrom, List.map_cons, ih]

/-- A body names these rules, in this order, and gives this reason. -/
def Lists (body : Text) (names : List Text) (justification : Option Text) : Prop :=
  (parse body).names = names ∧ (parse body).justification = justification

theorem lists_render {names : List Text} {justification : Option Text} (h : ∀ name ∈ names, IsRuleName name)
    (hreason : ∀ reason ∈ justification, IsReason reason) :
    Lists (render names justification) names justification := by
  have hparse := parse_render h hreason
  refine ⟨?_, ?_⟩
  · rw [RuleList.names, hparse]
    exact names_placedFrom 0 names
  · rw [hparse]

theorem Lists.lists_render {names : List Text} {justification : Option Text}
    (h : Lists body names justification) : Lists (render names justification) names justification := by
  obtain ⟨rfl, rfl⟩ := h
  exact RuleList.lists_render (fun _ => isRuleName_of_mem_names) fun _ => isReason_of_mem_justification

end RuleList

/-- Every body is divided at its first two dashes, if it has any, and the rule list that is read from it says
what its two parts say: each entry that is not blank is a rule, trimmed and at its place, and the reason is
what stands behind the dashes, trimmed. -/
theorem RuleList.parse_says (body : Text) :
    (∃ rules behind, Divides body rules behind) ∧
      ∀ rules behind, Divides body rules behind → Says body rules behind (parse body) :=
  ⟨exists_divides body, fun _ _ h => h.says⟩

/-- The rendered text of a list is its canonical form. What can be written is read back as it was, and nothing
else is; and what any body says is said again by the text that is rendered from it. -/
theorem RuleList.render_is_canonical :
    (∀ names justification, Lists (render names justification) names justification ↔
      (∀ name ∈ names, IsRuleName name) ∧ ∀ reason ∈ justification, IsReason reason) ∧
    ∀ body, Lists (render (parse body).names (parse body).justification)
      (parse body).names (parse body).justification := by
  refine ⟨fun names justification => ⟨fun h => ?_, fun ⟨hnames, hreason⟩ => lists_render hnames hreason⟩,
    fun body => Lists.lists_render ⟨rfl, rfl⟩⟩
  obtain ⟨hnames, hjustification⟩ := h
  refine ⟨fun name hname => ?_, fun reason hreason => ?_⟩
  · rw [← hnames] at hname
    exact isRuleName_of_mem_names hname
  · rw [← hjustification] at hreason
    exact isReason_of_mem_justification hreason

/-- Dashes at the ends of names and at the start of the reason, and a body that gives a reason for no rule. -/
theorem RuleList.render_is_canonical_between_dashes :
    ((∀ name ∈ ["a-".toList, "-b".toList, "-".toList], IsRuleName name) ∧
      ∀ reason ∈ some "-- c, d -- e".toList, IsReason reason) ∧
    Lists "a-, -b, - -- -- c, d -- e".toList ["a-".toList, "-b".toList, "-".toList] (some "-- c, d -- e".toList) ∧
    Lists " -- x".toList (parse " , --x".toList).names (parse " , --x".toList).justification := by
  have hnames : ∀ name ∈ ["a-".toList, "-b".toList, "-".toList], IsRuleName name := by decide +kernel
  have hreason : ∀ reason ∈ some "-- c, d -- e".toList, IsReason reason := by
    rintro reason ⟨⟩
    decide +kernel
  exact ⟨⟨hnames, hreason⟩, (render_is_canonical.1 _ _).2 ⟨hnames, hreason⟩,
    render_is_canonical.2 " , --x".toList⟩

end SuppressionAudit

import SuppressionAudit.Proofs.Directive.Reasons
import SuppressionAudit.Proofs.Scan.Outcomes

/-!
# Suppressions that can be reported

The fields of a finding are checked when it is made. What is extracted from a text passes every check, whatever
the linter answers and whatever is exempt: evaluating it ends with findings, or with the failure of the linter.
Each finding falls to one directive of the text, and it counts as justified when, and only when, this directive
gives a reason.
-/

namespace SuppressionAudit

variable {σ : Type} {content : Text}

/-! ### What is extracted -/

/-- Whether a suppression has all that a finding needs. -/
structure Suppression.IsReportable (s : Suppression) : Prop where
  line : 1 ≤ s.position.line
  column : 1 ≤ s.position.column
  rule : RuleList.IsRuleName s.rule
  justification : ∀ reason ∈ s.justification, RuleList.IsReason reason

theorem isReportable_of_mem {s : Suppression} (h : s ∈ extractSuppressions content) : s.IsReportable := by
  obtain ⟨hline, hcolumn⟩ := Scan.one_le_position h
  obtain ⟨d, -, hs⟩ := Directive.exists_of_mem_extractSuppressions h
  obtain ⟨mention, hmention, hrule, hjustification⟩ := Directive.exists_mention hs
  refine ⟨hline, hcolumn, ?_, ?_⟩
  · rw [hrule]
    exact RuleList.isRuleName_of_mem_names (List.mem_map_of_mem hmention)
  · intro reason hreason
    rw [hjustification] at hreason
    exact RuleList.isReason_of_mem_justification hreason

/-! ### One answer for a file -/

theorem RuleCache.rulesFor_again (linter : Linter σ) (path : Path) (cache : RuleCache σ) :
    rulesFor linter path (rulesFor linter path cache).2 = rulesFor linter path cache := by
  cases hanswer : answer? path cache.fetched with
  | some answer =>
    have hheld : rulesFor linter path cache = (answer, cache) := by
      simp only [rulesFor, hanswer]
    rw [hheld, hheld]
  | none =>
    let r := linter.fetchRules path cache.books
    have hasked : rulesFor linter path cache = (r.1, ⟨r.2, cache.fetched ++ [(path, r.1)]⟩) := by
      simp only [rulesFor, hanswer, r]
    have hnow : answer? path (cache.fetched ++ [(path, r.1)]) = some r.1 := by
      rw [answer?_append, hanswer]
      simp [answer?]
    rw [hasked]
    simp only [rulesFor, hnow]

theorem Reference.reportsIn_without_rules (allowlist : Allowlist) (relative : Text) (todo : List Suppression) :
    reportsIn allowlist relative [] todo = [] := by
  -- every rule is off
  have hoff : ∀ s ∈ todo, reportOf allowlist relative [] s = none := by
    intro s _
    unfold reportOf
    split <;> rfl
  rw [reportsIn, List.filterMap_eq_nil_iff.2 hoff, ite_self]

/-! ### Evaluations -/

namespace Evaluation

variable (linter : Linter σ) (allowlist : Allowlist) (file : EvaluatedFile) {cache : RuleCache σ} {rules : Rules}
  {failure : LinterFailure} {todo : List Suppression}

theorem rulesFor_evaluateOne (c : Candidate) (cache : RuleCache σ) :
    (RuleCache.rulesFor linter file.path (evaluateOne linter allowlist file c cache).2).1
      = (RuleCache.rulesFor linter file.path cache).1 := by
  unfold evaluateOne
  split
  · rfl
  · exact congrArg Prod.fst (RuleCache.rulesFor_again linter file.path cache)

theorem evaluateOne_of_rules (hrules : (RuleCache.rulesFor linter file.path cache).1 = .ok rules)
    {s : Suppression} (hs : s.IsReportable) :
    (evaluateOne linter allowlist file (Candidate.ofSuppression s) cache).1
      = .ok (Reference.reportOf allowlist file.relative rules s) := by
  rw [Scan.evaluateOne_ofSuppression linter allowlist file ⟨hs.line, hs.column⟩, hrules]
  split
  · next hexempt => rw [Reference.reportOf_of_exempt hexempt]
  · rfl

theorem evaluateAll_of_rules (hrules : (RuleCache.rulesFor linter file.path cache).1 = .ok rules)
    (htodo : ∀ s ∈ todo, s.IsReportable) :
    (evaluateAll linter allowlist file (todo.map Candidate.ofSuppression) cache).1
      = .ok (todo.filterMap (Reference.reportOf allowlist file.relative rules)) := by
  induction todo generalizing cache with
  | nil => rfl
  | cons s todo ih =>
    have hone := evaluateOne_of_rules linter allowlist file hrules (htodo s List.mem_cons_self)
    -- the next suppression finds the same rules
    have hafter := rulesFor_evaluateOne linter allowlist file (Candidate.ofSuppression s) cache
    have hrest := ih (hafter.trans hrules) fun t ht => htodo t (List.mem_cons_of_mem _ ht)
    simp only [List.map_cons, evaluateAll, hone, hrest, Except.map, List.filterMap_cons]
    cases Reference.reportOf allowlist file.relative rules s with
    | none => rfl
    | some finding => rfl

theorem evaluateFile_of_rules (hrules : (RuleCache.rulesFor linter file.path cache).1 = .ok rules)
    (htodo : ∀ s ∈ todo, s.IsReportable) :
    (evaluateFile linter allowlist file (todo.map Candidate.ofSuppression) cache).1
      = .ok (Reference.reportsIn allowlist file.relative rules todo) := by
  have hall := evaluateAll_of_rules linter allowlist file hrules htodo
  unfold evaluateFile Reference.reportsIn
  cases hexempt : allowlist.exemptsPath file.relative with
  | true => simp
  | false =>
    cases todo with
    | nil => rfl
    | cons s todo => simpa using hall

theorem evaluateAll_of_failure (hfailure : (RuleCache.rulesFor linter file.path cache).1 = .error failure)
    (todo : List Candidate) :
    (evaluateAll linter allowlist file todo cache).1 = .ok [] ∨
      (evaluateAll linter allowlist file todo cache).1 = .error (.linter failure) := by
  induction todo with
  | nil => exact .inl rfl
  | cons c todo ih =>
    cases hexempt : allowlist.exemptsRule c.rule with
    | true =>
      simp only [evaluateAll, evaluateOne_of_exempt hexempt]
      rcases ih with hnone | hends
      · left
        rw [hnone]
        rfl
      · right
        rw [hends]
        rfl
    | false =>
      have hends : (evaluateOne linter allowlist file c cache).1 = .error (.linter failure) := by
        simp [evaluateOne, hexempt, RuleCache.severityFor, hfailure, Except.map]
      right
      simp only [evaluateAll, hends]

theorem evaluateFile_of_failure (hfailure : (RuleCache.rulesFor linter file.path cache).1 = .error failure)
    (todo : List Candidate) :
    (evaluateFile linter allowlist file todo cache).1 = .ok [] ∨
      (evaluateFile linter allowlist file todo cache).1 = .error (.linter failure) := by
  unfold evaluateFile
  split
  · exact .inl rfl
  · exact evaluateAll_of_failure linter allowlist file hfailure todo

theorem evaluateFile_cases (cache : RuleCache σ) (htodo : ∀ s ∈ todo, s.IsReportable) :
    (∃ rules, (evaluateFile linter allowlist file (todo.map Candidate.ofSuppression) cache).1
        = .ok (Reference.reportsIn allowlist file.relative rules todo)) ∨
      ∃ failure, (evaluateFile linter allowlist file (todo.map Candidate.ofSuppression) cache).1
        = .error (.linter failure) := by
  cases hanswer : (RuleCache.rulesFor linter file.path cache).1 with
  | ok rules => exact .inl ⟨rules, evaluateFile_of_rules linter allowlist file hanswer htodo⟩
  | error failure =>
    rcases evaluateFile_of_failure linter allowlist file hanswer (todo.map Candidate.ofSuppression) with hnone | hends
    · exact .inl ⟨[], by rw [hnone, Reference.reportsIn_without_rules]⟩
    · exact .inr ⟨failure, hends⟩

end Evaluation

/-! ### Findings and their directives -/

/-- Findings of rules that a directive names, each rule at its place, with the reason that the directive gives. -/
structure Directive.Accounts (content relative : Text) (d : Directive) (found : List Finding) : Prop where
  named : (found.map fun f => (f.rule, (⟨f.line, f.column⟩ : Position))).Sublist
    ((d.suppressions content).map fun s => (s.rule, s.position))
  filePath : ∀ f ∈ found, f.filePath = relative
  justified : ∀ f ∈ found, ∀ reason, f.justification = some reason ↔
    reason ≠ [] ∧ ∃ before after, SplitsAtFirst RuleList.separator d.body before after ∧ IsCore after reason
  missing : ∀ f ∈ found, f.justificationMissing = true ↔ RuleList.LacksReason d.body

/-- Findings fall to the directives of a text, each to one of them. -/
def FallToDirectives (content relative : Text) (findings : List Finding) : Prop :=
  ∃ found : Directive → List Finding, (∀ d ∈ Directive.all content, d.Accounts content relative (found d)) ∧
    findings.Perm ((Directive.all content).flatMap found)

theorem map_filterMap_sublist {α β γ : Type} {read : α → Option β} {out : β → γ} {told : α → γ}
    (h : ∀ a b, read a = some b → out b = told a) (xs : List α) :
    ((xs.filterMap read).map out).Sublist (xs.map told) := by
  induction xs with
  | nil => exact List.nil_sublist _
  | cons a xs ih =>
    cases hread : read a with
    | none =>
      rw [List.filterMap_cons_none hread, List.map_cons]
      exact ih.cons _
    | some b =>
      rw [List.filterMap_cons_some hread, List.map_cons, List.map_cons, h a b hread]
      exact ih.cons_cons _

theorem Directive.accounts_reportsIn (content : Text) (d : Directive) (allowlist : Allowlist) (relative : Text)
    (rules : Rules) :
    d.Accounts content relative (Reference.reportsIn allowlist relative rules (d.suppressions content)) := by
  refine ⟨?_, ?_, ?_, ?_⟩
  · unfold Reference.reportsIn
    split
    · exact List.nil_sublist _
    · apply map_filterMap_sublist
      intro s f hs
      obtain ⟨level, rfl⟩ := Reference.exists_level_of_reportOf hs
      rfl
  · intro f hf
    obtain ⟨s, -, level, rfl⟩ := Reference.exists_of_mem_reportsIn hf
    rfl
  · intro f hf reason
    obtain ⟨s, hs, level, rfl⟩ := Reference.exists_of_mem_reportsIn hf
    obtain ⟨-, -, -, hjustification⟩ := exists_mention hs
    rw [← RuleList.justification_eq_some_iff, ← hjustification]
  · intro f hf
    obtain ⟨s, hs, level, rfl⟩ := Reference.exists_of_mem_reportsIn hf
    obtain ⟨-, -, -, hjustification⟩ := exists_mention hs
    rw [← RuleList.justification_eq_none_iff, ← hjustification]
    exact Option.isNone_iff_eq_none

theorem reportsIn_perm (content : Text) (allowlist : Allowlist) (relative : Text) (rules : Rules) :
    (Reference.reportsIn allowlist relative rules (extractSuppressions content)).Perm
      ((Directive.all content).flatMap fun d =>
        Reference.reportsIn allowlist relative rules (d.suppressions content)) := by
  unfold Reference.reportsIn
  split
  · simp
  · have hperm := (Directive.extractSuppressions_perm content).filterMap
      (Reference.reportOf allowlist relative rules)
    rwa [List.filterMap_flatMap] at hperm

/-- What is extracted from a text can be reported: its position counts from one, it names a rule, and its reason is
trimmed and not empty, if it has one. So no field of it is refused when it is evaluated, whatever the linter and the
allowlist are, and with the rules of the file there are findings: those of each directive that lies in the text. A
finding counts as justified when it has a reason, which is when more than blanks stand behind the first two dashes of
its directive. -/
theorem extracted_suppressions_are_reportable (content : Text) :
    (∀ s ∈ extractSuppressions content, s.IsReportable) ∧
    ((Directive.all content).Nodup ∧ ∀ d, d ∈ Directive.all content ↔ d.CountsIn content) ∧
    ∀ (σ : Type) (linter : Linter σ) (allowlist : Allowlist) (file : EvaluatedFile) (cache : RuleCache σ),
      let result := (Evaluation.evaluateFile linter allowlist file
        ((extractSuppressions content).map Candidate.ofSuppression) cache).1
      (∀ problems, result ≠ .error (.invalidFinding problems)) ∧
      (∀ rules, (RuleCache.rulesFor linter file.path cache).1 = .ok rules →
        let reports := Reference.reportsIn allowlist file.relative rules
        result = .ok (reports (extractSuppressions content)) ∧
          (reports (extractSuppressions content)).Perm
            ((Directive.all content).flatMap fun d => reports (d.suppressions content))) ∧
      ∀ findings, result = .ok findings →
        (∀ f ∈ findings, f.justificationMissing = true ↔ f.justification = none) ∧
        FallToDirectives content file.relative findings := by
  have hall : ∀ s ∈ extractSuppressions content, s.IsReportable := fun s hs => isReportable_of_mem hs
  refine ⟨hall, ⟨Directive.nodup_all content, fun d => Directive.mem_all_iff⟩, ?_⟩
  intro σ linter allowlist file cache
  have hcases := Evaluation.evaluateFile_cases linter allowlist file cache hall
  refine ⟨?_, ?_, ?_⟩
  · intro problems hinvalid
    rcases hcases with ⟨rules, hok⟩ | ⟨failure, hfails⟩
    · cases hok.symm.trans hinvalid
    · cases hfails.symm.trans hinvalid
  · intro rules hrules
    exact ⟨Evaluation.evaluateFile_of_rules linter allowlist file hrules hall,
      reportsIn_perm content allowlist file.relative rules⟩
  · intro findings hfindings
    rcases hcases with ⟨rules, hok⟩ | ⟨failure, hfails⟩
    · obtain rfl := Except.ok.inj (hok.symm.trans hfindings)
      refine ⟨fun f hf => Reference.justificationMissing_of_mem_reportsIn hf, ?_⟩
      exact ⟨_, fun d _ => d.accounts_reportsIn content allowlist file.relative rules,
        reportsIn_perm content allowlist file.relative rules⟩
    · cases hfails.symm.trans hfindings

/-- Two directives for one rule at the start of a file, the first with blanks for a reason, and a reason that is
dashes again. -/
def blankReasons : Text :=
  "/* eslint-disable a, -- \t*/ /* eslint-disable a -- why */
x(); // eslint-disable-line b --\u00a0 \r
/* eslint-disable-next-line c,\n d -- -- */".toList

def blankReasonsRules : Rules :=
  [("a".toList, .int 2), ("b".toList, .str "warn".toList), ("c".toList, .int 2), ("d".toList, .arr [.int 1])]

def blankReasonsFindings : List Finding :=
  [⟨"a.js".toList, 1, 1, .error, "a".toList, true, none, .block⟩,
    ⟨"a.js".toList, 1, 1, .error, "a".toList, false, some "why".toList, .block⟩,
    ⟨"a.js".toList, 2, 29, .warning, "b".toList, true, none, .line⟩,
    ⟨"a.js".toList, 4, 2, .warning, "d".toList, false, some "--".toList, .line⟩]

theorem extracted_suppressions_are_reportable_with_blank_reasons :
    ((⟨"b".toList, ⟨2, 29⟩, none, .line⟩ : Suppression) ∈ extractSuppressions blankReasons ∧
      (⟨"b".toList, ⟨2, 29⟩, none, .line⟩ : Suppression).IsReportable) ∧
    (Evaluation.evaluateFile (Linter.ofFunctions (fun _ => false) fun _ => .ok blankReasonsRules)
      ⟨["c".toList], []⟩ ⟨Path.ofText "a.js".toList, "a.js".toList⟩
      ((extractSuppressions blankReasons).map Candidate.ofSuppression) (RuleCache.fresh ())).1
        = .ok blankReasonsFindings ∧
    (∀ f ∈ blankReasonsFindings, f.justificationMissing = true ↔ f.justification = none) ∧
    FallToDirectives blankReasons "a.js".toList blankReasonsFindings := by
  have hmem : (⟨"b".toList, ⟨2, 29⟩, none, .line⟩ : Suppression) ∈ extractSuppressions blankReasons := by
    decide +kernel
  have hfindings : Reference.reportsIn ⟨["c".toList], []⟩ "a.js".toList blankReasonsRules
      (extractSuppressions blankReasons) = blankReasonsFindings := by
    decide +kernel
  obtain ⟨hreportable, -, hevaluated⟩ := extracted_suppressions_are_reportable blankReasons
  obtain ⟨-, hrules, hfound⟩ := hevaluated Unit
    (Linter.ofFunctions (fun _ => false) fun _ => .ok blankReasonsRules) ⟨["c".toList], []⟩
    ⟨Path.ofText "a.js".toList, "a.js".toList⟩ (RuleCache.fresh ())
  obtain ⟨hresult, -⟩ := hrules blankReasonsRules rfl
  rw [hfindings] at hresult
  exact ⟨⟨hmem, hreportable _ hmem⟩, hresult, hfound _ hresult⟩

end SuppressionAudit

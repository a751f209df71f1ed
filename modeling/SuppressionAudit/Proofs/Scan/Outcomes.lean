import SuppressionAudit.Proofs.Directive.ExactPositions
import SuppressionAudit.Proofs.Linter.Groups
import SuppressionAudit.Proofs.Linter.Snapshots
import SuppressionAudit.Scan

/-!
# Outcomes of files

What becomes of a file in a scan is a matter of its text, of the allowlist and of the rules that are in force
in it: it cannot be read, its rules cannot be looked up, or it has findings. Every task stays on its course
to the outcome of its file, in whatever order tasks take turns, since the cache only ever holds what the
linter says. A scan has a verdict when and only when no file has an error for its outcome; otherwise it has
the error of one of them.
-/

namespace SuppressionAudit

namespace Reference

variable {σ : Type}

/-- What is reported of a suppression in a file where these rules are in force. -/
def reportOf (allowlist : Allowlist) (relative : Text) (rules : Rules) (s : Suppression) : Option Finding :=
  if allowlist.exemptsRule s.rule then none
  else
    (FindingLevel.ofSeverity? (Severity.ofRule rules s.rule)).map fun level =>
      { filePath := relative
        line := s.position.line
        column := s.position.column
        level := level
        rule := s.rule
        justificationMissing := s.justification.isNone
        justification := s.justification
        kind := s.kind }

/-- The files that are scanned. -/
def filesOf (setup : ScanSetup σ) (ignores : Path → Bool) : List (List Text) :=
  (findSourceFiles setup.config.discoveryOptions setup.project).filter fun parts =>
    !ignores (setup.project.root.below parts)

theorem reportOf_of_exempt {allowlist : Allowlist} {s : Suppression} (h : allowlist.exemptsRule s.rule = true)
    (relative : Text) (rules : Rules) : reportOf allowlist relative rules s = none := by
  simp only [reportOf, h, if_true]

theorem exists_level_of_reportOf {allowlist : Allowlist} {relative : Text} {rules : Rules} {s : Suppression}
    {f : Finding} (h : reportOf allowlist relative rules s = some f) :
    ∃ level, f = ⟨relative, s.position.line, s.position.column, level, s.rule, s.justification.isNone,
      s.justification, s.kind⟩ := by
  unfold reportOf at h
  split at h
  · cases h
  · obtain ⟨level, -, rfl⟩ := Option.map_eq_some_iff.1 h
    exact ⟨level, rfl⟩

/-- What is reported of suppressions in a file where these rules are in force. -/
def reportsIn (allowlist : Allowlist) (relative : Text) (rules : Rules) (todo : List Suppression) : List Finding :=
  if allowlist.exemptsPath relative then [] else todo.filterMap (reportOf allowlist relative rules)

theorem exists_of_mem_reportsIn {allowlist : Allowlist} {relative : Text} {rules : Rules} {todo : List Suppression}
    {f : Finding} (h : f ∈ reportsIn allowlist relative rules todo) :
    ∃ s ∈ todo, ∃ level, f = ⟨relative, s.position.line, s.position.column, level, s.rule,
      s.justification.isNone, s.justification, s.kind⟩ := by
  unfold reportsIn at h
  split at h
  · cases h
  · obtain ⟨s, hs, hreport⟩ := List.mem_filterMap.1 h
    exact ⟨s, hs, exists_level_of_reportOf hreport⟩

theorem justificationMissing_of_mem_reportsIn {allowlist : Allowlist} {relative : Text} {rules : Rules}
    {todo : List Suppression} {f : Finding} (h : f ∈ reportsIn allowlist relative rules todo) :
    f.justificationMissing = true ↔ f.justification = none := by
  obtain ⟨s, -, level, rfl⟩ := exists_of_mem_reportsIn h
  exact Option.isNone_iff_eq_none

end Reference

theorem Evaluation.evaluateOne_of_exempt {σ : Type} {allowlist : Allowlist} {c : Candidate}
    (h : allowlist.exemptsRule c.rule = true) (linter : Linter σ) (file : EvaluatedFile) (cache : RuleCache σ) :
    evaluateOne linter allowlist file c cache = (.ok none, cache) := by
  simp only [evaluateOne, h, if_true]

/-! ### Linters and what is known of them -/

/-- From books on which something holds, the answers of a linter are functions of the path, and it holds
afterwards. -/
structure Linter.AnswersFrom {σ : Type} (linter : Linter σ) (holds : σ → Prop)
    (ignored : Path → Except LinterFailure Bool) (rules : Path → Except LinterFailure Rules) : Prop where
  checkIgnored : ∀ paths s, holds s →
    (linter.checkIgnored paths s).1 = paths.map ignored ∧ holds (linter.checkIgnored paths s).2
  fetchRules : ∀ path s, holds s →
    (linter.fetchRules path s).1 = rules path ∧ holds (linter.fetchRules path s).2

theorem Linter.ofFunctions_answersFrom (ignored : Path → Bool) (rules : Path → Except LinterFailure Rules) :
    (Linter.ofFunctions ignored rules).AnswersFrom (fun _ => True) (fun path => .ok (ignored path)) rules :=
  ⟨fun _ _ _ => ⟨rfl, trivial⟩, fun _ _ _ => ⟨rfl, trivial⟩⟩

namespace Scan

section

variable {σ : Type} {holds : σ → Prop} {ignored : Path → Except LinterFailure Bool}
  {rules : Path → Except LinterFailure Rules}

/-- A cache holds what the linter says. -/
structure CacheAgrees (holds : σ → Prop) (rules : Path → Except LinterFailure Rules) (cache : RuleCache σ) :
    Prop where
  books : holds cache.books
  fetched : ∀ entry ∈ cache.fetched, entry.2 = rules entry.1

theorem rulesFor_agrees {linter : Linter σ} (hlinter : linter.AnswersFrom holds ignored rules)
    {cache : RuleCache σ} (hcache : CacheAgrees holds rules cache) (path : Path) :
    (RuleCache.rulesFor linter path cache).1 = rules path ∧
      CacheAgrees holds rules (RuleCache.rulesFor linter path cache).2 := by
  unfold RuleCache.rulesFor
  cases hanswer : RuleCache.answer? path cache.fetched with
  | some answer => exact ⟨hcache.fetched _ (RuleCache.mem_of_answer?_eq_some hanswer), hcache⟩
  | none =>
    obtain ⟨hrules, hbooks⟩ := hlinter.fetchRules path cache.books hcache.books
    refine ⟨hrules, hbooks, fun entry hentry => ?_⟩
    rcases List.mem_append.1 hentry with hold | hnew
    · exact hcache.fetched entry hold
    · rw [List.mem_singleton.1 hnew]
      exact hrules

end

/-! ### Results of lists -/

theorem collect_eq_ok_iff {ε α : Type} {results : List (Except ε α)} {values : List α} :
    collect results = .ok values ↔ results = values.map Except.ok := by
  constructor
  · intro h
    induction results generalizing values with
    | nil =>
      obtain rfl := Except.ok.inj h
      rfl
    | cons result results ih =>
      cases result with
      | error e => cases h
      | ok a =>
        cases hrest : collect results with
        | error e =>
          rw [collect, hrest] at h
          cases h
        | ok rest =>
          rw [collect, hrest] at h
          obtain rfl := Except.ok.inj h
          rw [List.map_cons, ← ih hrest]
  · rintro rfl
    induction values with
    | nil => rfl
    | cons a values ih => rw [List.map_cons, collect, ih, Except.map]

theorem values_eq_of_map_ok {ε α : Type} {values others : List α}
    (h : values.map (Except.ok : α → Except ε α) = others.map Except.ok) : values = others := by
  have hcollect := collect_eq_ok_iff.2 h
  rw [collect_eq_ok_iff.2 rfl] at hcollect
  exact Except.ok.inj hcollect

theorem exists_ok_of_map_eq {ε α β : Type} {f : α → Except ε β} {xs : List α} {values : List β}
    (h : xs.map f = values.map Except.ok) {x : α} (hx : x ∈ xs) : ∃ value ∈ values, f x = .ok value := by
  have hmem : f x ∈ values.map Except.ok := h ▸ List.mem_map_of_mem hx
  obtain ⟨value, hvalue, hok⟩ := List.mem_map.1 hmem
  exact ⟨value, hvalue, hok.symm⟩

theorem mem_of_collect_eq_error {ε α : Type} {results : List (Except ε α)} {e : ε}
    (h : collect results = .error e) : .error e ∈ results := by
  induction results with
  | nil => cases h
  | cons result results ih =>
    cases result with
    | error first =>
      obtain rfl : first = e := Except.error.inj h
      exact List.mem_cons_self
    | ok a =>
      cases hrest : collect results with
      | ok rest =>
        rw [collect, hrest] at h
        cases h
      | error later =>
        rw [collect, hrest] at h
        obtain rfl : later = e := Except.error.inj h
        exact List.mem_cons_of_mem _ (ih hrest)

/-! ### One file -/

theorem one_le_position {content : Text} {s : Suppression} (h : s ∈ extractSuppressions content) :
    1 ≤ s.position.line ∧ 1 ≤ s.position.column := by
  rcases mem_extractSuppressions.1 h with hblock | hlineForm
  · rw [(Block.position_eq hblock).2]
    exact ⟨Nat.le_refl 1, Nat.le_refl 1⟩
  · obtain ⟨-, offset, -, -, hstands⟩ := exact_of_mem_lineForms hlineForm
    exact hstands.one_le

theorem ofCandidate_ofSuppression {s : Suppression} (h : 1 ≤ s.position.line ∧ 1 ≤ s.position.column)
    (relative : Text) (level : FindingLevel) :
    Finding.ofCandidate relative level (Candidate.ofSuppression s)
      = .ok
        { filePath := relative
          line := s.position.line
          column := s.position.column
          level := level
          rule := s.rule
          justificationMissing := s.justification.isNone
          justification := s.justification
          kind := s.kind } := by
  have hline : s.position.line ≠ 0 := by omega
  have hcolumn : s.position.column ≠ 0 := by omega
  unfold Finding.ofCandidate Candidate.ofSuppression FieldCheck.counted
  simp only [hline, hcolumn, if_false]

theorem evaluateOne_ofSuppression {σ : Type} (linter : Linter σ) (allowlist : Allowlist) (file : EvaluatedFile)
    {s : Suppression} (hs : 1 ≤ s.position.line ∧ 1 ≤ s.position.column) (cache : RuleCache σ) :
    (Evaluation.evaluateOne linter allowlist file (Candidate.ofSuppression s) cache).1
      = if allowlist.exemptsRule s.rule then .ok none
        else
          match (RuleCache.rulesFor linter file.path cache).1 with
          | .error failure => .error (.linter failure)
          | .ok found => .ok (Reference.reportOf allowlist file.relative found s) := by
  have hrule : (Candidate.ofSuppression s).rule = s.rule := rfl
  unfold Evaluation.evaluateOne
  rw [hrule]
  cases hexempt : allowlist.exemptsRule s.rule with
  | true => rfl
  | false =>
    simp only [Bool.false_eq_true, if_false, RuleCache.severityFor]
    cases (RuleCache.rulesFor linter file.path cache).1 with
    | error failure => rfl
    | ok found =>
      simp only [Except.map, Reference.reportOf, hexempt, Bool.false_eq_true, if_false]
      cases FindingLevel.ofSeverity? (Severity.ofRule found s.rule) with
      | none => rfl
      | some level => simp only [ofCandidate_ofSuppression hs, Option.map_some]

section

variable {σ : Type} {setup : ScanSetup σ} {holds : σ → Prop} {ignored : Path → Except LinterFailure Bool}
  {rules : Path → Except LinterFailure Rules} {parts : List Text}

/-- What becomes of one suppression in a file that is not exempt. -/
def reported (setup : ScanSetup σ) (rules : Path → Except LinterFailure Rules) (parts : List Text)
    (s : Suppression) : Except ScanError (Option Finding) :=
  if setup.allowlist.exemptsRule s.rule then .ok none
  else
    match rules (setup.project.root.below parts) with
    | .error failure => .error (.linter failure)
    | .ok found => .ok (Reference.reportOf setup.allowlist (Path.relativeText parts) found s)

/-- What becomes of suppressions in a file that is not exempt. Its rules count unless all of the
suppressions are of exempt rules. -/
def evaluated (setup : ScanSetup σ) (rules : Path → Except LinterFailure Rules) (parts : List Text)
    (todo : List Suppression) : Except ScanError (List Finding) :=
  if todo.all fun s => setup.allowlist.exemptsRule s.rule then .ok []
  else
    match rules (setup.project.root.below parts) with
    | .error failure => .error (.linter failure)
    | .ok found =>
      .ok (todo.filterMap (Reference.reportOf setup.allowlist (Path.relativeText parts) found))

/-- What becomes of a file. -/
def outcomeOf (setup : ScanSetup σ) (rules : Path → Except LinterFailure Rules) (parts : List Text) :
    Except ScanError (List Finding) :=
  match readSource setup.project parts with
  | .error e => .error e
  | .ok content =>
    if setup.allowlist.exemptsPath (Path.relativeText parts) then .ok []
    else evaluated setup rules parts (extractSuppressions content)

theorem filterMap_reportOf_of_exempt {todo : List Suppression}
    (h : (todo.all fun s => setup.allowlist.exemptsRule s.rule) = true) (relative : Text) (found : Rules) :
    todo.filterMap (Reference.reportOf setup.allowlist relative found) = [] := by
  refine List.filterMap_eq_nil_iff.2 fun s hs => ?_
  exact Reference.reportOf_of_exempt (List.all_eq_true.1 h s hs) relative found

theorem evaluated_of_rules {found : Rules} (h : rules (setup.project.root.below parts) = .ok found)
    (todo : List Suppression) :
    evaluated setup rules parts todo
      = .ok (todo.filterMap (Reference.reportOf setup.allowlist (Path.relativeText parts) found)) := by
  unfold evaluated
  split
  · next hexempt => rw [filterMap_reportOf_of_exempt hexempt]
  · simp only [h]

theorem evaluated_cons (s : Suppression) (todo : List Suppression) :
    evaluated setup rules parts (s :: todo)
      = match reported setup rules parts s with
        | .error e => .error e
        | .ok finding => (evaluated setup rules parts todo).map fun findings => finding.toList ++ findings := by
  cases hrules : rules (setup.project.root.below parts) with
  | ok found =>
    rw [evaluated_of_rules hrules, evaluated_of_rules hrules, List.filterMap_cons]
    unfold reported
    cases hexempt : setup.allowlist.exemptsRule s.rule with
    | true =>
      rw [Reference.reportOf_of_exempt hexempt]
      rfl
    | false =>
      simp only [hrules, Bool.false_eq_true, if_false, Except.map]
      cases Reference.reportOf setup.allowlist (Path.relativeText parts) found s <;> rfl
  | error failure =>
    unfold evaluated reported
    rw [List.all_cons]
    cases hexempt : setup.allowlist.exemptsRule s.rule with
    | false => simp only [hrules, Bool.false_and, Bool.false_eq_true, if_false]
    | true =>
      simp only [hrules, Bool.true_and, if_true]
      split <;> rfl

/-! ### Tasks on their courses -/

theorem evaluateOne_eq_reported (hlinter : setup.linter.AnswersFrom holds ignored rules) (parts : List Text)
    {s : Suppression} (hs : 1 ≤ s.position.line ∧ 1 ≤ s.position.column) {cache : RuleCache σ}
    (hcache : CacheAgrees holds rules cache) :
    (Evaluation.evaluateOne setup.linter setup.allowlist (fileAt setup.project parts)
        (Candidate.ofSuppression s) cache).1 = reported setup rules parts s ∧
      CacheAgrees holds rules (Evaluation.evaluateOne setup.linter setup.allowlist
        (fileAt setup.project parts) (Candidate.ofSuppression s) cache).2 := by
  obtain ⟨hrules, hagrees⟩ := rulesFor_agrees hlinter hcache (setup.project.root.below parts)
  have hpath : (fileAt setup.project parts).path = setup.project.root.below parts := rfl
  constructor
  · rw [evaluateOne_ofSuppression _ _ _ hs, hpath, hrules]
    rfl
  · unfold Evaluation.evaluateOne
    split
    · exact hcache
    · exact hagrees

theorem evaluateAll_eq_evaluated (hlinter : setup.linter.AnswersFrom holds ignored rules)
    {todo : List Suppression} (htodo : ∀ s ∈ todo, 1 ≤ s.position.line ∧ 1 ≤ s.position.column)
    {cache : RuleCache σ} (hcache : CacheAgrees holds rules cache) :
    (Evaluation.evaluateAll setup.linter setup.allowlist (fileAt setup.project parts)
        (todo.map Candidate.ofSuppression) cache).1 = evaluated setup rules parts todo ∧
      CacheAgrees holds rules (Evaluation.evaluateAll setup.linter setup.allowlist
        (fileAt setup.project parts) (todo.map Candidate.ofSuppression) cache).2 := by
  induction todo generalizing cache with
  | nil => exact ⟨rfl, hcache⟩
  | cons s todo ih =>
    obtain ⟨hone, hagrees⟩ := evaluateOne_eq_reported hlinter parts (htodo s List.mem_cons_self) hcache
    obtain ⟨hrest, hfinal⟩ := ih (fun t ht => htodo t (List.mem_cons_of_mem _ ht)) hagrees
    rw [evaluated_cons]
    simp only [List.map_cons, Evaluation.evaluateAll, hone]
    cases reported setup rules parts s with
    | error e => exact ⟨rfl, hagrees⟩
    | ok finding => exact ⟨by simp only [hrest], hfinal⟩

/-- A task on its course to the outcome of its file. -/
def OnCourse (setup : ScanSetup σ) (rules : Path → Except LinterFailure Rules) (parts : List Text) :
    Task → Prop
  | .unread => True
  | .evaluating todo found => ∃ rest : List Suppression, todo = rest.map Candidate.ofSuppression ∧
      (∀ s ∈ rest, 1 ≤ s.position.line ∧ 1 ≤ s.position.column) ∧
      (evaluated setup rules parts rest).map (found ++ ·) = outcomeOf setup rules parts
  | .finished result => result = outcomeOf setup rules parts

theorem onCourse_afterReading (setup : ScanSetup σ) (rules : Path → Except LinterFailure Rules)
    (parts : List Text) : OnCourse setup rules parts (afterReading setup parts) := by
  unfold afterReading
  cases hread : readSource setup.project parts with
  | error e => simp only [OnCourse, outcomeOf, hread]
  | ok content =>
    cases hexempt : setup.allowlist.exemptsPath (Path.relativeText parts) with
    | true => simp only [if_true, OnCourse, outcomeOf, hread, hexempt]
    | false =>
      refine ⟨_, rfl, fun s hs => one_le_position hs, ?_⟩
      simp only [outcomeOf, hread, hexempt, Bool.false_eq_true, if_false]
      cases evaluated setup rules parts (extractSuppressions content) <;> rfl

theorem afterReading_ne_unread (setup : ScanSetup σ) (parts : List Text) :
    afterReading setup parts ≠ .unread := by
  unfold afterReading
  split
  · simp
  · split <;> simp

/-- A task that is read now goes on like one that was read before. -/
theorem finishTask_unread (setup : ScanSetup σ) (parts : List Text) (cache : RuleCache σ) :
    finishTask setup parts .unread cache = finishTask setup parts (afterReading setup parts) cache := by
  cases hafter : afterReading setup parts with
  | unread => exact absurd hafter (afterReading_ne_unread setup parts)
  | finished result => simp only [finishTask, hafter]
  | evaluating todo found => simp only [finishTask, hafter]

theorem onCourse_takeTurn (hlinter : setup.linter.AnswersFrom holds ignored rules) {task : Task}
    (htask : OnCourse setup rules parts task) {cache : RuleCache σ} (hcache : CacheAgrees holds rules cache) :
    OnCourse setup rules parts (takeTurn setup parts task cache).1 ∧
      CacheAgrees holds rules (takeTurn setup parts task cache).2 := by
  cases task with
  | unread => exact ⟨onCourse_afterReading setup rules parts, hcache⟩
  | finished result => exact ⟨htask, hcache⟩
  | evaluating todo found =>
    obtain ⟨rest, rfl, hrest, hfound⟩ := htask
    cases rest with
    | nil =>
      rw [show evaluated setup rules parts [] = .ok [] from rfl, Except.map, List.append_nil] at hfound
      exact ⟨hfound, hcache⟩
    | cons s rest =>
      obtain ⟨hone, hagrees⟩ := evaluateOne_eq_reported hlinter parts (hrest s List.mem_cons_self) hcache
      rw [evaluated_cons] at hfound
      simp only [List.map_cons, takeTurn, hone]
      refine ⟨?_, hagrees⟩
      cases hreported : reported setup rules parts s with
      | error e =>
        rw [hreported] at hfound
        exact hfound
      | ok finding =>
        refine ⟨rest, rfl, fun t ht => hrest t (List.mem_cons_of_mem _ ht), ?_⟩
        rw [hreported] at hfound
        rw [← hfound]
        cases evaluated setup rules parts rest with
        | error e => rfl
        | ok findings => simp only [Except.map, List.append_assoc]

theorem finishTask_eq_outcome (hlinter : setup.linter.AnswersFrom holds ignored rules) {task : Task}
    (htask : OnCourse setup rules parts task) {cache : RuleCache σ} (hcache : CacheAgrees holds rules cache) :
    (finishTask setup parts task cache).1 = outcomeOf setup rules parts ∧
      CacheAgrees holds rules (finishTask setup parts task cache).2 := by
  have hread : ∀ task ≠ .unread, OnCourse setup rules parts task →
      (finishTask setup parts task cache).1 = outcomeOf setup rules parts ∧
        CacheAgrees holds rules (finishTask setup parts task cache).2 := by
    intro task hne htask
    cases task with
    | unread => exact absurd rfl hne
    | finished result => exact ⟨htask, hcache⟩
    | evaluating todo found =>
      obtain ⟨rest, rfl, hrest, hfound⟩ := htask
      obtain ⟨hall, hagrees⟩ := evaluateAll_eq_evaluated hlinter hrest hcache
      refine ⟨?_, hagrees⟩
      simp only [finishTask, hall, hfound]
  by_cases hunread : task = .unread
  · rw [hunread, finishTask_unread]
    exact hread _ (afterReading_ne_unread setup parts) (onCourse_afterReading setup rules parts)
  · exact hread task hunread htask

theorem outcomeOf_of_errorOf? {task : Task} (h : OnCourse setup rules parts task) {e : ScanError}
    (he : errorOf? task = some e) : outcomeOf setup rules parts = .error e := by
  cases task with
  | unread => cases he
  | evaluating todo found => cases he
  | finished result =>
    cases result with
    | ok findings => cases he
    | error other =>
      obtain rfl : other = e := Option.some.inj he
      exact h.symm

/-! ### All files -/

/-- A turn puts another task beside the same file. -/
theorem files_set {tasks : List (List Text × Task)} {index : Nat} {parts : List Text} {task : Task}
    (h : tasks[index]? = some (parts, task)) (next : Task) :
    (tasks.set index (parts, next)).map Prod.fst = tasks.map Prod.fst := by
  obtain ⟨hlt, hget⟩ := List.getElem?_eq_some_iff.1 h
  have hbound : index < (tasks.map Prod.fst).length := by simpa using hlt
  have hparts : (tasks.map Prod.fst)[index] = parts := by rw [List.getElem_map, hget]
  rw [List.map_set, ← hparts, List.set_getElem_self]

theorem files_turnOf (setup : ScanSetup σ) (p : Progress σ) (index : Nat) :
    (turnOf setup p index).tasks.map Prod.fst = p.tasks.map Prod.fst := by
  unfold turnOf
  cases htask : p.tasks[index]? with
  | none => rfl
  | some entry => exact files_set htask _

theorem files_runSchedule (setup : ScanSetup σ) (schedule : List Nat) (p : Progress σ) :
    (runSchedule setup schedule p).tasks.map Prod.fst = p.tasks.map Prod.fst := by
  unfold runSchedule
  induction schedule generalizing p with
  | nil => rfl
  | cons index schedule ih => rw [List.foldl_cons, ih, files_turnOf]

/-- A scan whose tasks are all on their courses; its first error, if any, is that of one of its files. -/
structure AllOnCourse (setup : ScanSetup σ) (holds : σ → Prop) (rules : Path → Except LinterFailure Rules)
    (files : List (List Text)) (p : Progress σ) : Prop where
  files_eq : p.tasks.map Prod.fst = files
  tasks : ∀ entry ∈ p.tasks, OnCourse setup rules entry.1 entry.2
  cache : CacheAgrees holds rules p.cache
  firstError : ∀ e, p.firstError = some e → ∃ parts ∈ files, outcomeOf setup rules parts = .error e

variable {files : List (List Text)} {p : Progress σ}

theorem allOnCourse_turnOf (hlinter : setup.linter.AnswersFrom holds ignored rules)
    (hp : AllOnCourse setup holds rules files p) (index : Nat) :
    AllOnCourse setup holds rules files (turnOf setup p index) := by
  unfold turnOf
  cases htask : p.tasks[index]? with
  | none => exact hp
  | some entry =>
    obtain ⟨parts, task⟩ := entry
    have hmem : (parts, task) ∈ p.tasks := List.mem_of_getElem? htask
    have hfile : parts ∈ files := by
      rw [← hp.files_eq]
      exact List.mem_map_of_mem hmem
    obtain ⟨hcourse, hagrees⟩ := onCourse_takeTurn hlinter (hp.tasks _ hmem) hp.cache
    refine ⟨(files_set htask _).trans hp.files_eq, fun entry hentry => ?_, hagrees, fun e he => ?_⟩
    · rcases List.mem_or_eq_of_mem_set hentry with hold | rfl
      · exact hp.tasks entry hold
      · exact hcourse
    · rcases Option.or_eq_some_iff.1 he with hbefore | ⟨-, hnow⟩
      · exact hp.firstError e hbefore
      · exact ⟨parts, hfile, outcomeOf_of_errorOf? hcourse hnow⟩

theorem allOnCourse_runSchedule (hlinter : setup.linter.AnswersFrom holds ignored rules)
    (hp : AllOnCourse setup holds rules files p) (schedule : List Nat) :
    AllOnCourse setup holds rules files (runSchedule setup schedule p) := by
  unfold runSchedule
  induction schedule generalizing p with
  | nil => exact hp
  | cons index schedule ih => exact ih (allOnCourse_turnOf hlinter hp index)

theorem finishTasks_eq_outcomes (hlinter : setup.linter.AnswersFrom holds ignored rules)
    {tasks : List (List Text × Task)} (htasks : ∀ entry ∈ tasks, OnCourse setup rules entry.1 entry.2)
    {cache : RuleCache σ} (hcache : CacheAgrees holds rules cache) :
    (finishTasks setup tasks cache).1 = collect ((tasks.map Prod.fst).map (outcomeOf setup rules)) := by
  induction tasks generalizing cache with
  | nil => rfl
  | cons entry tasks ih =>
    obtain ⟨parts, task⟩ := entry
    obtain ⟨hone, hagrees⟩ := finishTask_eq_outcome hlinter (htasks _ List.mem_cons_self) hcache
    have hrest := ih (fun e he => htasks e (List.mem_cons_of_mem _ he)) hagrees
    simp only [finishTasks, hone, List.map_cons]
    cases outcomeOf setup rules parts with
    | error e => rfl
    | ok findings => rw [collect, hrest]

theorem allOnCourse_start (setup : ScanSetup σ) {cache : RuleCache σ} (hcache : CacheAgrees holds rules cache)
    (files : List (List Text)) :
    AllOnCourse setup holds rules files ⟨files.map fun parts => (parts, .unread), cache, none⟩ := by
  refine ⟨?_, fun entry hentry => ?_, hcache, fun e he => by cases he⟩
  · rw [List.map_map]
    exact List.map_id files
  · obtain ⟨parts, -, rfl⟩ := List.mem_map.1 hentry
    trivial

/-- Files have findings under a schedule when and only when none of them has an error for its outcome. -/
theorem scanFiles_eq_ok_iff (hlinter : setup.linter.AnswersFrom holds ignored rules) {cache : RuleCache σ}
    (hcache : CacheAgrees holds rules cache) (schedule : List Nat) (files : List (List Text))
    {perFile : List (List Finding)} :
    (scanFiles setup schedule files cache).1 = .ok perFile
      ↔ files.map (outcomeOf setup rules) = perFile.map .ok := by
  have hend := allOnCourse_runSchedule hlinter (allOnCourse_start setup hcache files) schedule
  have hresults := finishTasks_eq_outcomes hlinter hend.tasks hend.cache
  rw [hend.files_eq] at hresults
  unfold scanFiles
  cases hfirst : (runSchedule setup schedule ⟨files.map fun parts => (parts, .unread), cache, none⟩).firstError with
  | none =>
    simp only [hfirst, hresults]
    exact collect_eq_ok_iff
  | some e =>
    -- a file whose task a turn has ended by an error has no findings when the outcomes are collected
    obtain ⟨parts, hparts, herror⟩ := hend.firstError e hfirst
    simp only [hfirst]
    constructor
    · intro h
      cases h
    · intro h
      obtain ⟨findings, -, hfindings⟩ := exists_ok_of_map_eq h hparts
      rw [herror] at hfindings
      cases hfindings

theorem exists_of_scanFiles_eq_error (hlinter : setup.linter.AnswersFrom holds ignored rules)
    {cache : RuleCache σ} (hcache : CacheAgrees holds rules cache) {schedule : List Nat}
    {files : List (List Text)} {e : ScanError} (h : (scanFiles setup schedule files cache).1 = .error e) :
    ∃ parts ∈ files, outcomeOf setup rules parts = .error e := by
  have hend := allOnCourse_runSchedule hlinter (allOnCourse_start setup hcache files) schedule
  have hresults := finishTasks_eq_outcomes hlinter hend.tasks hend.cache
  rw [hend.files_eq] at hresults
  unfold scanFiles at h
  cases hfirst : (runSchedule setup schedule ⟨files.map fun parts => (parts, .unread), cache, none⟩).firstError with
  | none =>
    simp only [hfirst, hresults] at h
    exact List.mem_map.1 (mem_of_collect_eq_error h)
  | some first =>
    simp only [hfirst] at h
    obtain rfl := Except.error.inj h
    exact hend.firstError first hfirst

end

/-! ### Ignored files -/

theorem keptFiles_map (ignores : List Text → Bool) (files : List (List Text)) :
    keptFiles files (files.map ignores) = files.filter fun parts => !ignores parts := by
  unfold keptFiles
  induction files with
  | nil => rfl
  | cons parts files ih =>
    rw [List.map_cons, List.zip_cons_cons, List.filterMap_cons, List.filter_cons]
    cases hignored : ignores parts with
    | true => simpa [hignored] using ih
    | false => simpa [hignored] using ih

/-- The files that are kept, when the linter tells of each whether it ignores it. -/
theorem filterIgnored_of_answers {σ : Type} {linter : Linter σ} {project : Project} {files : List (List Text)}
    {ignores : List Text → Bool} {books : σ}
    (h : (linter.checkIgnored (files.map project.root.below) books).1 = files.map fun parts => .ok (ignores parts)) :
    (filterIgnored linter project files books).1 = .ok (files.filter fun parts => !ignores parts) := by
  have hcollect : collect (files.map fun parts => (.ok (ignores parts) : Except LinterFailure Bool))
      = .ok (files.map ignores) := by
    rw [collect_eq_ok_iff, List.map_map]
    rfl
  unfold filterIgnored
  simp only [h, hcollect]
  rw [keptFiles_map]

section

variable {σ : Type} {holds : σ → Prop} {ignored : Path → Except LinterFailure Bool}
  {rules : Path → Except LinterFailure Rules}

theorem filterIgnored_ok {linter : Linter σ} (hlinter : linter.AnswersFrom holds ignored rules)
    {project : Project} {files : List (List Text)} {ignores : Path → Bool}
    (hchecked : ∀ parts ∈ files, ignored (project.root.below parts) = .ok (ignores (project.root.below parts)))
    {books : σ} (hbooks : holds books) :
    (filterIgnored linter project files books).1
        = .ok (files.filter fun parts => !ignores (project.root.below parts)) ∧
      holds (filterIgnored linter project files books).2 := by
  obtain ⟨hanswers, hafter⟩ := hlinter.checkIgnored (files.map project.root.below) books hbooks
  have hall : (files.map project.root.below).map ignored
      = files.map fun parts => .ok (ignores (project.root.below parts)) := by
    rw [List.map_map]
    exact List.map_congr_left hchecked
  exact ⟨filterIgnored_of_answers (hanswers.trans hall), hafter⟩

/-! ### Whole scans -/

variable {setup : ScanSetup σ}

/-- The ignore check of a scan tells of every source file whether it is ignored, and these files are left. -/
def Keeps (setup : ScanSetup σ) (ignored : Path → Except LinterFailure Bool) (kept : List (List Text)) : Prop :=
  ∃ answers, (findSourceFiles setup.config.discoveryOptions setup.project).map
      (fun parts => ignored (setup.project.root.below parts)) = answers.map Except.ok ∧
    kept = keptFiles (findSourceFiles setup.config.discoveryOptions setup.project) answers

theorem keeps_unique {kept other : List (List Text)} (hkept : Keeps setup ignored kept)
    (hother : Keeps setup ignored other) : kept = other := by
  obtain ⟨answers, hanswers, rfl⟩ := hkept
  obtain ⟨more, hmore, rfl⟩ := hother
  rw [values_eq_of_map_ok (hanswers.symm.trans hmore)]

theorem keeps_filesOf (setup : ScanSetup σ) (ignores : Path → Bool) :
    Keeps setup (fun path => .ok (ignores path)) (Reference.filesOf setup ignores) := by
  refine ⟨(findSourceFiles setup.config.discoveryOptions setup.project).map fun parts =>
    ignores (setup.project.root.below parts), ?_, ?_⟩
  · rw [List.map_map]
    rfl
  · rw [keptFiles_map]
    rfl

/-- A scan has the verdict on the findings of the files that are kept, none of which has an error for its
outcome; or it has the error of a question or of one of these files. -/
theorem run_cases (hlinter : setup.linter.AnswersFrom holds ignored rules) {books : σ} (hbooks : holds books)
    (schedule : List Nat) :
    (∃ kept perFile, Keeps setup ignored kept ∧ kept.map (outcomeOf setup rules) = perFile.map Except.ok ∧
      (setup.run schedule (RuleCache.fresh books)).result = .ok (Verdict.ofFiles perFile kept.length)) ∨
    (∃ kept, Keeps setup ignored kept ∧ ∃ parts ∈ kept, ∃ e, outcomeOf setup rules parts = .error e ∧
      (setup.run schedule (RuleCache.fresh books)).result = .error e) ∨
    ∃ parts ∈ findSourceFiles setup.config.discoveryOptions setup.project, ∃ failure,
      ignored (setup.project.root.below parts) = .error failure ∧
      (setup.run schedule (RuleCache.fresh books)).result = .error (.linter failure) := by
  obtain ⟨hanswers, hafter⟩ := hlinter.checkIgnored
    ((findSourceFiles setup.config.discoveryOptions setup.project).map setup.project.root.below) books hbooks
  rw [List.map_map] at hanswers
  unfold Keeps
  unfold findSourceFiles at hanswers hafter ⊢
  unfold ScanSetup.run
  simp only [filterIgnored, RuleCache.fresh, hanswers]
  cases hcollect : collect (((discover setup.config.discoveryOptions setup.project).1.map
      (ignored ∘ setup.project.root.below))) with
  | error failure =>
    obtain ⟨parts, hparts, herror⟩ := List.mem_map.1 (mem_of_collect_eq_error hcollect)
    exact .inr (.inr ⟨parts, hparts, failure, herror, rfl⟩)
  | ok answers =>
    have hchecked := collect_eq_ok_iff.1 hcollect
    have hcache : CacheAgrees holds rules ⟨(setup.linter.checkIgnored
        ((discover setup.config.discoveryOptions setup.project).1.map setup.project.root.below) books).2, []⟩ :=
      ⟨hafter, by simp⟩
    cases hresult : (scanFiles setup schedule
        (keptFiles (discover setup.config.discoveryOptions setup.project).1 answers)
        ⟨(setup.linter.checkIgnored
          ((discover setup.config.discoveryOptions setup.project).1.map setup.project.root.below) books).2, []⟩).1 with
    | ok perFile =>
      have houtcomes := (scanFiles_eq_ok_iff hlinter hcache schedule _).1 hresult
      exact .inl ⟨_, perFile, ⟨answers, hchecked, rfl⟩, houtcomes, by simp only [hresult]⟩
    | error e =>
      obtain ⟨parts, hparts, herror⟩ := exists_of_scanFiles_eq_error hlinter hcache hresult
      exact .inr (.inl ⟨_, ⟨answers, hchecked, rfl⟩, parts, hparts, e, herror, by simp only [hresult]⟩)

theorem run_eq_ok_iff (hlinter : setup.linter.AnswersFrom holds ignored rules) {books : σ}
    (hbooks : holds books) (schedule : List Nat) {verdict : Verdict} :
    (setup.run schedule (RuleCache.fresh books)).result = .ok verdict ↔
      ∃ kept perFile, Keeps setup ignored kept ∧ kept.map (outcomeOf setup rules) = perFile.map Except.ok ∧
        verdict = Verdict.ofFiles perFile kept.length := by
  rcases run_cases hlinter hbooks schedule with ⟨kept, perFile, hkept, houtcomes, hresult⟩ |
    ⟨kept, hkept, parts, hparts, e, herror, hresult⟩ | ⟨parts, hparts, failure, herror, hresult⟩
  · constructor
    · intro h
      exact ⟨kept, perFile, hkept, houtcomes, Except.ok.inj (h.symm.trans hresult)⟩
    · rintro ⟨other, found, hother, hfound, rfl⟩
      obtain rfl := keeps_unique hother hkept
      rw [hresult, values_eq_of_map_ok (hfound.symm.trans houtcomes)]
  · rw [hresult]
    constructor
    · intro h
      cases h
    · rintro ⟨other, found, hother, hfound, -⟩
      obtain rfl := keeps_unique hother hkept
      obtain ⟨findings, -, hok⟩ := exists_ok_of_map_eq hfound hparts
      rw [herror] at hok
      cases hok
  · rw [hresult]
    constructor
    · intro h
      cases h
    · rintro ⟨other, found, ⟨answers, hanswers, -⟩, -, -⟩
      obtain ⟨answer, -, hok⟩ := exists_ok_of_map_eq hanswers hparts
      rw [herror] at hok
      cases hok

end

end Scan

end SuppressionAudit

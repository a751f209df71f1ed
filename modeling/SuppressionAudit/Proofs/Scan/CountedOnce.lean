import SuppressionAudit.Proofs.Directive.Overlaps
import SuppressionAudit.Proofs.Scan.Sequential

/-!
# What a scan counts once

Whatever the linter answers and in whatever order tasks take turns, the findings of a file come from its
suppressions, in their order and each from one of its own. So a scan counts nothing twice that is extracted only
once, and of the line forms that are the rules which no two directives name at one place.
-/

namespace SuppressionAudit

/-- Where something is reported: the file, the form of the directive and the position. -/
structure Spot where
  filePath : Text
  kind : SuppressionKind
  position : Position
deriving DecidableEq

def Finding.spot (f : Finding) : Spot := ⟨f.filePath, f.kind, ⟨f.line, f.column⟩⟩

def Suppression.spotIn (filePath : Text) (s : Suppression) : Spot := ⟨filePath, s.kind, s.position⟩

namespace Scan

variable {σ : Type} {setup : ScanSetup σ} {parts : List Text}

/-- The spots of the suppressions of a file, in their order. -/
def spotsOf (project : Project) (parts : List Text) : List Spot :=
  (extractSuppressions (Reference.textOf project parts)).map (Suppression.spotIn (Path.relativeText parts))

/-- Findings that come from the suppressions of a file, in their order and each from one of its own. -/
def DrawnFrom (project : Project) (findings : List Finding) (parts : List Text) : Prop :=
  (findings.map Finding.spot).Sublist (spotsOf project parts)

/-! ### One file -/

theorem counted_eq_ok {field : Text} {n value : Nat} (h : FieldCheck.counted field n = .ok value) : value = n := by
  unfold FieldCheck.counted at h
  split at h
  · cases h
  · exact (Except.ok.inj h).symm

theorem spot_ofCandidate {s : Suppression} {relative : Text} {level : FindingLevel} {f : Finding}
    (h : Finding.ofCandidate relative level (Candidate.ofSuppression s) = .ok f) : f.spot = s.spotIn relative := by
  unfold Finding.ofCandidate at h
  split at h
  · next line column justification kind hline hcolumn hjustification hkind =>
    obtain rfl := Except.ok.inj h
    obtain rfl := Except.ok.inj hkind
    obtain rfl := counted_eq_ok hline
    obtain rfl := counted_eq_ok hcolumn
    rfl
  · cases h

theorem spots_evaluateOne {linter : Linter σ} {allowlist : Allowlist} {file : EvaluatedFile} {s : Suppression}
    {cache : RuleCache σ} {finding : Option Finding}
    (h : (Evaluation.evaluateOne linter allowlist file (Candidate.ofSuppression s) cache).1 = .ok finding) :
    (finding.toList.map Finding.spot).Sublist [s.spotIn file.relative] := by
  cases finding with
  | none => exact List.nil_sublist _
  | some f =>
    unfold Evaluation.evaluateOne at h
    split at h
    · cases h
    · dsimp only at h
      split at h
      · cases h
      · split at h
        · cases h
        · split at h
          · next hfits =>
            obtain rfl := Option.some.inj (Except.ok.inj h)
            simp [spot_ofCandidate hfits]
          · cases h

theorem spots_evaluateAll {linter : Linter σ} {allowlist : Allowlist} {file : EvaluatedFile}
    {todo : List Suppression} {cache : RuleCache σ} {findings : List Finding}
    (h : (Evaluation.evaluateAll linter allowlist file (todo.map Candidate.ofSuppression) cache).1 = .ok findings) :
    (findings.map Finding.spot).Sublist (todo.map (Suppression.spotIn file.relative)) := by
  induction todo generalizing cache findings with
  | nil =>
    obtain rfl := Except.ok.inj h
    exact List.nil_sublist _
  | cons s todo ih =>
    rw [List.map_cons, Evaluation.evaluateAll] at h
    dsimp only at h
    split at h
    · cases h
    · next finding hone =>
      dsimp only at h
      cases hrest : (Evaluation.evaluateAll linter allowlist file (todo.map Candidate.ofSuppression)
          (Evaluation.evaluateOne linter allowlist file (Candidate.ofSuppression s) cache).2).1 with
      | error e =>
        rw [hrest] at h
        cases h
      | ok rest =>
        rw [hrest] at h
        obtain rfl := Except.ok.inj h
        rw [List.map_append, List.map_cons, ← List.singleton_append]
        exact (spots_evaluateOne hone).append (ih hrest)

/-- The findings of a task come from the suppressions that it has gone through. -/
def Drawn (setup : ScanSetup σ) (parts : List Text) : Task → Prop
  | .unread => True
  | .evaluating todo found => ∃ done rest, extractSuppressions (Reference.textOf setup.project parts) = done ++ rest ∧
      todo = rest.map Candidate.ofSuppression ∧
      (found.map Finding.spot).Sublist (done.map (Suppression.spotIn (Path.relativeText parts)))
  | .finished result => ∀ found, result = .ok found → DrawnFrom setup.project found parts

theorem drawn_afterReading (setup : ScanSetup σ) (parts : List Text) :
    Drawn setup parts (afterReading setup parts) := by
  unfold afterReading
  cases hread : readSource setup.project parts with
  | error e =>
    intro found hfound
    cases hfound
  | ok content =>
    obtain rfl := textOf_of_readSource hread
    dsimp only
    split
    · intro found hfound
      obtain rfl := Except.ok.inj hfound
      exact List.nil_sublist _
    · exact ⟨[], _, rfl, rfl, List.nil_sublist _⟩

theorem drawn_takeTurn {task : Task} (h : Drawn setup parts task) (cache : RuleCache σ) :
    Drawn setup parts (takeTurn setup parts task cache).1 := by
  cases task with
  | unread => exact drawn_afterReading setup parts
  | finished result => exact h
  | evaluating todo found =>
    obtain ⟨done, rest, hall, rfl, hfound⟩ := h
    cases rest with
    | nil =>
      rintro findings hfindings
      obtain rfl := Except.ok.inj hfindings
      rw [DrawnFrom, spotsOf, hall, List.append_nil]
      exact hfound
    | cons s rest =>
      simp only [List.map_cons, takeTurn]
      cases hone : (Evaluation.evaluateOne setup.linter setup.allowlist (fileAt setup.project parts)
          (Candidate.ofSuppression s) cache).1 with
      | error e =>
        intro findings hfindings
        cases hfindings
      | ok finding =>
        refine ⟨done ++ [s], rest, by rw [hall, List.append_assoc, List.singleton_append], rfl, ?_⟩
        rw [List.map_append, List.map_append]
        exact hfound.append (spots_evaluateOne hone)

theorem spots_finishTask {task : Task} (h : Drawn setup parts task) {cache : RuleCache σ} {findings : List Finding}
    (hresult : (finishTask setup parts task cache).1 = .ok findings) : DrawnFrom setup.project findings parts := by
  have hread : ∀ task ≠ .unread, Drawn setup parts task →
      (finishTask setup parts task cache).1 = .ok findings → DrawnFrom setup.project findings parts := by
    intro task hne hdrawn hresult
    cases task with
    | unread => exact absurd rfl hne
    | finished result => exact hdrawn findings hresult
    | evaluating todo found =>
      obtain ⟨done, rest, hall, rfl, hfound⟩ := hdrawn
      simp only [finishTask] at hresult
      cases hrest : (Evaluation.evaluateAll setup.linter setup.allowlist (fileAt setup.project parts)
          (rest.map Candidate.ofSuppression) cache).1 with
      | error e =>
        rw [hrest] at hresult
        cases hresult
      | ok more =>
        rw [hrest] at hresult
        obtain rfl := Except.ok.inj hresult
        rw [DrawnFrom, spotsOf, hall, List.map_append, List.map_append]
        exact hfound.append (spots_evaluateAll hrest)
  by_cases hunread : task = .unread
  · rw [hunread, finishTask_unread] at hresult
    exact hread _ (afterReading_ne_unread setup parts) (drawn_afterReading setup parts) hresult
  · exact hread task hunread h hresult

/-! ### All files -/

theorem drawn_turnOf {p : Progress σ} (h : ∀ entry ∈ p.tasks, Drawn setup entry.1 entry.2) (index : Nat) :
    ∀ entry ∈ (turnOf setup p index).tasks, Drawn setup entry.1 entry.2 := by
  unfold turnOf
  cases htask : p.tasks[index]? with
  | none => exact h
  | some entry =>
    intro other hother
    rcases List.mem_or_eq_of_mem_set hother with hold | rfl
    · exact h other hold
    · exact drawn_takeTurn (h entry (List.mem_of_getElem? htask)) p.cache

theorem drawn_runSchedule {p : Progress σ} (h : ∀ entry ∈ p.tasks, Drawn setup entry.1 entry.2)
    (schedule : List Nat) : ∀ entry ∈ (runSchedule setup schedule p).tasks, Drawn setup entry.1 entry.2 := by
  unfold runSchedule
  induction schedule generalizing p with
  | nil => exact h
  | cons index schedule ih => exact ih (drawn_turnOf h index)

theorem spots_finishTasks {tasks : List (List Text × Task)} (h : ∀ entry ∈ tasks, Drawn setup entry.1 entry.2)
    {cache : RuleCache σ} {perFile : List (List Finding)}
    (hresult : (finishTasks setup tasks cache).1 = .ok perFile) :
    List.Forall₂ (DrawnFrom setup.project) perFile (tasks.map Prod.fst) := by
  induction tasks generalizing cache perFile with
  | nil =>
    obtain rfl := Except.ok.inj hresult
    exact .nil
  | cons entry tasks ih =>
    obtain ⟨parts, task⟩ := entry
    simp only [finishTasks] at hresult
    split at hresult
    · cases hresult
    · next findings hone =>
      cases hrest : (finishTasks setup tasks (finishTask setup parts task cache).2).1 with
      | error e => simp [hrest, Except.map] at hresult
      | ok rest =>
        simp only [hrest, Except.map] at hresult
        obtain rfl := Except.ok.inj hresult
        exact .cons (spots_finishTask (h _ List.mem_cons_self) hone)
          (ih (fun e he => h e (List.mem_cons_of_mem _ he)) hrest)

theorem spots_scanFiles {files : List (List Text)} {cache : RuleCache σ} {schedule : List Nat}
    {perFile : List (List Finding)} (h : (scanFiles setup schedule files cache).1 = .ok perFile) :
    List.Forall₂ (DrawnFrom setup.project) perFile files := by
  have hstart : ∀ entry ∈ files.map fun parts => (parts, Task.unread), Drawn setup entry.1 entry.2 := by
    intro entry hentry
    obtain ⟨parts, -, rfl⟩ := List.mem_map.1 hentry
    trivial
  have hdrawn := drawn_runSchedule (p := ⟨files.map fun parts => (parts, .unread), cache, none⟩) hstart schedule
  have hfiles := files_runSchedule setup schedule ⟨files.map fun parts => (parts, .unread), cache, none⟩
  rw [List.map_map, show Prod.fst ∘ (fun parts : List Text => (parts, Task.unread)) = id from rfl,
    List.map_id] at hfiles
  unfold scanFiles at h
  dsimp only at h
  split at h
  · cases h
  · have hspots := spots_finishTasks hdrawn h
    rwa [hfiles] at hspots

theorem keptFiles_sublist (files : List (List Text)) (ignored : List Bool) :
    (keptFiles files ignored).Sublist files := by
  unfold keptFiles
  induction files generalizing ignored with
  | nil => exact List.Sublist.refl _
  | cons parts files ih =>
    cases ignored with
    | nil => exact List.nil_sublist _
    | cons answer ignored =>
      cases answer with
      | true => exact (ih ignored).cons parts
      | false => exact (ih ignored).cons_cons parts

/-- The findings of a scan are those of its source files, and each comes from a suppression of its own. -/
theorem spots_run {cache : RuleCache σ} {schedule : List Nat} {verdict : Verdict}
    (h : (setup.run schedule cache).result = .ok verdict) :
    ∃ kept perFile, kept.Sublist (findSourceFiles setup.config.discoveryOptions setup.project) ∧
      verdict = Verdict.ofFiles perFile kept.length ∧ List.Forall₂ (DrawnFrom setup.project) perFile kept := by
  unfold findSourceFiles
  unfold ScanSetup.run at h
  simp only [filterIgnored] at h
  cases hcollect : collect (setup.linter.checkIgnored
      ((discover setup.config.discoveryOptions setup.project).1.map setup.project.root.below) cache.books).1 with
  | error failure =>
    simp only [hcollect] at h
    cases h
  | ok ignored =>
    simp only [hcollect] at h
    split at h
    · cases h
    · next perFile hscan =>
      exact ⟨_, perFile, keptFiles_sublist _ ignored, (Except.ok.inj h).symm, spots_scanFiles hscan⟩

/-! ### Findings at one place -/

/-- Of the line forms in a file, none is counted twice but the rules that two directives name at one place. -/
structure CountsOnce (project : Project) (findings : List Finding) (parts : List Text) : Prop where
  filePath : ∀ f ∈ findings, f.filePath = Path.relativeText parts
  once : ∀ p, 1 < findings.countP (fun f => f.kind = .line ∧ (⟨f.line, f.column⟩ : Position) = p) →
    ∃ offset, NamedTwice (Reference.textOf project parts) offset ∧ StandsAt (Reference.textOf project parts) offset p

theorem DrawnFrom.countsOnce {project : Project} {findings : List Finding}
    (h : DrawnFrom project findings parts) : CountsOnce project findings parts := by
  constructor
  · intro f hf
    obtain ⟨s, -, hs⟩ := List.mem_map.1 (h.subset (List.mem_map_of_mem hf))
    exact (congrArg Spot.filePath hs).symm
  · intro p hcount
    refine (one_lt_countP_isLineAt_iff _ p).1 (Nat.lt_of_lt_of_le hcount ?_)
    have hle := h.countP_le (p := fun spot => decide (spot.kind = .line ∧ spot.position = p))
    rw [spotsOf, List.countP_map, List.countP_map] at hle
    exact hle

end Scan

/-- Two line forms stand at one position exactly where two directives name a rule, the inner one behind a comma in
its own list. Every other line form is extracted once, and whatever the linter answers and in whatever order tasks
take turns, a scan counts it at most once. -/
theorem line_form_counted_once_unless_named_twice :
    (∀ content p, 1 < (extractSuppressions content).countP (Suppression.isLineAt p) ↔
      ∃ offset, NamedTwice content offset ∧ StandsAt content offset p) ∧
    ∀ (σ : Type) (setup : ScanSetup σ) (schedule : List Nat) (cache : RuleCache σ) (verdict : Verdict),
      (setup.run schedule cache).result = .ok verdict →
      ∃ kept perFile, kept.Sublist (findSourceFiles setup.config.discoveryOptions setup.project) ∧
        verdict = Verdict.ofFiles perFile kept.length ∧
        List.Forall₂ (Scan.CountsOnce setup.project) perFile kept := by
  refine ⟨one_lt_countP_isLineAt_iff, fun σ setup schedule cache verdict hverdict => ?_⟩
  obtain ⟨kept, perFile, hkept, hfindings, hdrawn⟩ := Scan.spots_run hverdict
  exact ⟨kept, perFile, hkept, hfindings, hdrawn.imp fun findings parts h => h.countsOnce⟩

/-- A directive among the rules of another one. Both name the rule behind the last comma. -/
def nestedText : Text := "/* eslint-disable-line a, /* eslint-disable-line , x */".toList

def nestedSetup : ScanSetup Unit where
  project := ⟨⟨['/'], []⟩, ⟨.directory none none [("a.js".toList, .file (.ok (Utf8.encode nestedText)))]⟩⟩
  linter := Linter.ofFunctions (fun _ => false) fun _ => .ok [("a".toList, .int 1), ("x".toList, .int 2)]
  allowlist := ⟨[], []⟩
  config := { ScanConfig.default with excludeGlobs := [] }

theorem line_form_counted_once_but_in_nested_text :
    (∃ offset, NamedTwice nestedText offset ∧ StandsAt nestedText offset ⟨1, 52⟩) ∧
    (∀ offset, NamedTwice nestedText offset → ¬ StandsAt nestedText offset ⟨1, 24⟩) ∧
    ∃ kept perFile, kept.Sublist (findSourceFiles nestedSetup.config.discoveryOptions nestedSetup.project) ∧
      Verdict.ofFiles perFile kept.length
        = ⟨[⟨"a.js".toList, 1, 24, .warning, ['a'], true, none, .line⟩,
            ⟨"a.js".toList, 1, 52, .error, ['x'], true, none, .line⟩,
            ⟨"a.js".toList, 1, 52, .error, ['x'], true, none, .line⟩], 1⟩ ∧
      List.Forall₂ (Scan.CountsOnce nestedSetup.project) perFile kept := by
  have hverdict : (nestedSetup.run [0, 0, 0] (RuleCache.fresh ())).result
      = .ok ⟨[⟨"a.js".toList, 1, 24, .warning, ['a'], true, none, .line⟩,
          ⟨"a.js".toList, 1, 52, .error, ['x'], true, none, .line⟩,
          ⟨"a.js".toList, 1, 52, .error, ['x'], true, none, .line⟩], 1⟩ := by
    decide +kernel
  obtain ⟨hplaces, hscans⟩ := line_form_counted_once_unless_named_twice
  obtain ⟨kept, perFile, hkept, hfindings, hcounts⟩ := hscans Unit nestedSetup _ _ _ hverdict
  refine ⟨(hplaces nestedText ⟨1, 52⟩).1 (by decide +kernel), fun offset htwice hstands => ?_,
    kept, perFile, hkept, hfindings.symm, hcounts⟩
  have htwo := (hplaces nestedText ⟨1, 24⟩).2 ⟨offset, htwice, hstands⟩
  exact absurd htwo (by decide +kernel)

/-- The rule behind the last comma is extracted twice. -/
theorem line_form_extracted_twice_in_nested_text :
    ¬ ∀ content p, (extractSuppressions content).countP (Suppression.isLineAt p) ≤ 1 := by
  intro hall
  exact absurd (hall nestedText ⟨1, 52⟩) (by decide +kernel)

end SuppressionAudit

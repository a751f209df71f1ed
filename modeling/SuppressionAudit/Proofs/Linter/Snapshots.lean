import SuppressionAudit.Linter.Interface
import SuppressionAudit.Proofs.Linter.Answers

/-!
# One snapshot for each file

Requests for severities come in groups, and the requests of a group are made together: first each of them
notes its path, when no one noted it before, and then the paths that are new are all asked for. What a
path's only call returns, rules or a failure, answers every request for it, in this group and in later
ones, whatever the rules are by then. Taking the requests of a group one after the other comes to the same.
-/

namespace SuppressionAudit

variable {σ : Type}

/-- Where rules come from: calls for files that are made together have one answer each, and the source may
keep books of its own. -/
structure RuleSource (σ : Type) where
  fetch : List Path → σ → List (Except LinterFailure Rules) × σ
  length_fetch : ∀ called books, (fetch called books).1.length = called.length

/-- A source whose answers depend on the file alone. -/
def RuleSource.ofTable (rules : Path → Except LinterFailure Rules) : RuleSource σ where
  fetch called books := (called.map rules, books)
  length_fetch _ _ := List.length_map rules

namespace Linter

/-- The answers of a linter that takes its calls one after the other. -/
def fetchInTurn (linter : Linter σ) : List Path → σ → List (Except LinterFailure Rules) × σ
  | [], books => ([], books)
  | path :: called, books =>
    let r := linter.fetchRules path books
    let rest := fetchInTurn linter called r.2
    (r.1 :: rest.1, rest.2)

theorem length_fetchInTurn (linter : Linter σ) (called : List Path) (books : σ) :
    (linter.fetchInTurn called books).1.length = called.length := by
  induction called generalizing books with
  | nil => rfl
  | cons path called ih => rw [fetchInTurn, List.length_cons, List.length_cons, ih]

def ruleSource (linter : Linter σ) : RuleSource σ := ⟨linter.fetchInTurn, linter.length_fetchInTurn⟩

end Linter

namespace RuleCache

/-! ### Groups -/

/-- The paths that are asked for and not known, in the order of their first requests. -/
def newPaths : List Path → List Path → List Path
  | _, [] => []
  | known, path :: asked =>
    if path ∈ known then newPaths known asked else path :: newPaths (known ++ [path]) asked

/-- The severity of a rule by the answers that calls had, if one of them was for the file. -/
def severityIn (fetched : List (Path × Except LinterFailure Rules)) (request : Path × Text) :
    Option (Except LinterFailure Severity) :=
  (answer? request.1 fetched).map fun answer => answer.map fun rules => Severity.ofRule rules request.2

/-- How a group went: its calls with their answers, and what its requests received. -/
structure GroupOutcome where
  fetched : List (Path × Except LinterFailure Rules)
  received : List (Option (Except LinterFailure Severity))

/-- Requests that are made together, by a rule source. -/
def askTogether (source : RuleSource σ) (requests : List (Path × Text)) (cache : RuleCache σ) :
    GroupOutcome × RuleCache σ :=
  let called := newPaths cache.fetchedPaths (requests.map Prod.fst)
  let r := source.fetch called cache.books
  let fetched := called.zip r.1
  (⟨fetched, requests.map (severityIn (cache.fetched ++ fetched))⟩, ⟨r.2, cache.fetched ++ fetched⟩)

/-- Groups of requests one after the other, each with a rule source of its own. -/
def askGroups : List (RuleSource σ × List (Path × Text)) → RuleCache σ → List GroupOutcome × RuleCache σ
  | [], cache => ([], cache)
  | (source, requests) :: groups, cache =>
    let r := askTogether source requests cache
    let rest := askGroups groups r.2
    (r.1 :: rest.1, rest.2)

/-! ### Answers -/

theorem answer?_eq_valueOf? (path : Path) (entries : List (Path × Except LinterFailure Rules)) :
    answer? path entries = Batching.valueOf? path entries := by
  induction entries with
  | nil => rfl
  | cons entry entries ih => simp only [answer?, Batching.valueOf?, ih]

theorem answer?_append (path : Path) (entries more : List (Path × Except LinterFailure Rules)) :
    answer? path (entries ++ more) = (answer? path entries).or (answer? path more) := by
  simp only [answer?_eq_valueOf?, Batching.valueOf?_append]

theorem answer?_eq_none_iff {path : Path} {entries : List (Path × Except LinterFailure Rules)} :
    answer? path entries = none ↔ path ∉ entries.map Prod.fst := by
  rw [answer?_eq_valueOf?, Batching.valueOf?_eq_none_iff]
  rfl

theorem answer?_of_mem {path : Path} {answer : Except LinterFailure Rules}
    {entries : List (Path × Except LinterFailure Rules)} (hnodup : (entries.map Prod.fst).Nodup)
    (h : (path, answer) ∈ entries) : answer? path entries = some answer := by
  rw [answer?_eq_valueOf?]
  exact Batching.valueOf?_of_mem hnodup h

theorem mem_of_answer?_eq_some {path : Path} {answer : Except LinterFailure Rules}
    {entries : List (Path × Except LinterFailure Rules)} (h : answer? path entries = some answer) :
    (path, answer) ∈ entries := by
  rw [answer?_eq_valueOf?] at h
  exact Batching.mem_of_valueOf?_eq_some h

theorem answer?_map (rules : Path → Except LinterFailure Rules) (path : Path) (called : List Path) :
    answer? path (called.map fun other => (other, rules other))
      = if path ∈ called then some (rules path) else none := by
  induction called with
  | nil => rfl
  | cons other called ih =>
    by_cases h : other = path
    · simp [answer?, h]
    · simp [answer?, h, ih, Ne.symm h]

theorem severityIn_append_of_mem {request : Path × Text} {entries : List (Path × Except LinterFailure Rules)}
    (h : request.1 ∈ entries.map Prod.fst) (later : List (Path × Except LinterFailure Rules)) :
    severityIn (entries ++ later) request = severityIn entries request := by
  obtain ⟨answer, hanswer⟩ : ∃ answer, answer? request.1 entries = some answer := by
    rw [← Option.ne_none_iff_exists']
    exact fun hnone => answer?_eq_none_iff.1 hnone h
  rw [severityIn, severityIn, answer?_append, hanswer, Option.some_or]

/-! ### Calls -/

theorem newPaths_eq (known asked : List Path) : newPaths known asked = (asked.removeAll known).eraseDups := by
  induction asked generalizing known with
  | nil => rfl
  | cons path asked ih =>
    unfold newPaths
    split
    · next h =>
      rw [ih]
      simp [List.removeAll, h]
    · next h =>
      have hrest : asked.removeAll (known ++ [path])
          = (asked.removeAll known).filter fun other => !other == path := by
        simp only [List.removeAll, List.filter_filter]
        refine List.filter_congr fun other _ => ?_
        simp [beq_eq_decide, Bool.and_comm]
      have hhere : (path :: asked).removeAll known = path :: asked.removeAll known := by
        simp [List.removeAll, h]
      rw [ih, hrest, hhere, List.eraseDups_cons]

theorem mem_newPaths {known asked : List Path} {path : Path} :
    path ∈ newPaths known asked ↔ path ∈ asked ∧ path ∉ known := by
  rw [newPaths_eq, List.mem_eraseDups]
  simp [List.removeAll]

/-- Whatever the paths that are known, they and the new ones are those asked for so far. -/
theorem eraseDups_append_newPaths (asked more : List Path) :
    asked.eraseDups ++ newPaths asked.eraseDups more = (asked ++ more).eraseDups := by
  have hsame : more.removeAll asked.eraseDups = more.removeAll asked := by
    refine List.filter_congr fun path _ => ?_
    simp
  rw [newPaths_eq, hsame, List.eraseDups_append]

section Group

variable {source : RuleSource σ} {requests : List (Path × Text)} {cache : RuleCache σ} {asked : List Path}

theorem fetched_askTogether (source : RuleSource σ) (requests : List (Path × Text)) (cache : RuleCache σ) :
    (askTogether source requests cache).2.fetched
      = cache.fetched ++ (askTogether source requests cache).1.fetched := rfl

theorem calls_askTogether (source : RuleSource σ) (requests : List (Path × Text)) (cache : RuleCache σ) :
    (askTogether source requests cache).1.fetched.map Prod.fst
      = newPaths cache.fetchedPaths (requests.map Prod.fst) := by
  unfold askTogether
  dsimp only
  rw [List.map_fst_zip]
  exact Nat.le_of_eq (source.length_fetch _ _).symm

/-- A group asks for the paths that are new in it. -/
theorem fetchedPaths_askTogether (source : RuleSource σ) (requests : List (Path × Text))
    (h : cache.fetchedPaths = asked.eraseDups) :
    (askTogether source requests cache).2.fetchedPaths = (asked ++ requests.map Prod.fst).eraseDups := by
  rw [fetchedPaths, fetched_askTogether, List.map_append, calls_askTogether, ← eraseDups_append_newPaths, ← h]
  rfl

/-- The requests of a group are answered by the calls so far, and later calls change nothing about it. -/
theorem received_askTogether (h : cache.fetchedPaths = asked.eraseDups)
    (later : List (Path × Except LinterFailure Rules)) :
    (askTogether source requests cache).1.received
      = requests.map (severityIn ((askTogether source requests cache).2.fetched ++ later)) := by
  refine List.map_congr_left fun request hrequest => ?_
  have hknown : request.1 ∈ (askTogether source requests cache).2.fetchedPaths := by
    rw [fetchedPaths_askTogether source requests h, List.mem_eraseDups]
    exact List.mem_append_right _ (List.mem_map_of_mem hrequest)
  exact (severityIn_append_of_mem hknown later).symm

end Group

/-! ### Runs -/

section Run

variable {groups : List (RuleSource σ × List (Path × Text))} {cache : RuleCache σ} {asked : List Path}

theorem fetched_askGroups (groups : List (RuleSource σ × List (Path × Text))) (cache : RuleCache σ) :
    (askGroups groups cache).2.fetched
      = cache.fetched ++ (askGroups groups cache).1.flatMap GroupOutcome.fetched := by
  induction groups generalizing cache with
  | nil => simp [askGroups]
  | cons group groups ih =>
    rw [askGroups, ih, fetched_askTogether, List.flatMap_cons, List.append_assoc]

theorem fetchedPaths_askGroups (groups : List (RuleSource σ × List (Path × Text)))
    (h : cache.fetchedPaths = asked.eraseDups) :
    (askGroups groups cache).2.fetchedPaths
      = (asked ++ (groups.flatMap Prod.snd).map Prod.fst).eraseDups := by
  induction groups generalizing cache asked with
  | nil => simpa [askGroups] using h
  | cons group groups ih =>
    rw [askGroups, ih (fetchedPaths_askTogether _ _ h), List.flatMap_cons, List.map_append, List.append_assoc]

theorem received_askGroups (h : cache.fetchedPaths = asked.eraseDups) :
    (askGroups groups cache).1.map GroupOutcome.received
      = groups.map fun group => group.2.map (severityIn (askGroups groups cache).2.fetched) := by
  induction groups generalizing cache asked with
  | nil => rfl
  | cons group groups ih =>
    obtain ⟨source, requests⟩ := group
    have hrest := ih (fetchedPaths_askTogether source requests h)
    simp only [askGroups, List.map_cons, hrest]
    rw [received_askTogether h ((askGroups groups (askTogether source requests cache).2).1.flatMap
      GroupOutcome.fetched), ← fetched_askGroups]

theorem take_askGroups (groups : List (RuleSource σ × List (Path × Text))) (cache : RuleCache σ) (n : Nat) :
    (askGroups groups cache).1.take n = (askGroups (groups.take n) cache).1 := by
  induction n generalizing groups cache with
  | zero => rfl
  | succ n ih =>
    cases groups with
    | nil => rfl
    | cons group groups => rw [askGroups, List.take_succ_cons, List.take_succ_cons, askGroups, ih]

end Run

/-! ### Requests one after the other -/

theorem askTogether_cons_of_known (source : RuleSource σ) {path : Path} {cache : RuleCache σ}
    (h : path ∈ cache.fetchedPaths) (rule : Text) (requests : List (Path × Text)) :
    (askTogether source ((path, rule) :: requests) cache).1.received
        = severityIn (askTogether source requests cache).2.fetched (path, rule)
          :: (askTogether source requests cache).1.received ∧
      (askTogether source ((path, rule) :: requests) cache).2 = (askTogether source requests cache).2 := by
  simp [askTogether, newPaths, h]

/-- A new path in front is called for first; the others find it known. -/
theorem askTogether_cons_of_new (linter : Linter σ) {path : Path} {cache : RuleCache σ}
    (h : path ∉ cache.fetchedPaths) (rule : Text) (requests : List (Path × Text)) :
    let next : RuleCache σ := ⟨(linter.fetchRules path cache.books).2,
      cache.fetched ++ [(path, (linter.fetchRules path cache.books).1)]⟩
    (askTogether linter.ruleSource ((path, rule) :: requests) cache).1.received
        = severityIn (askTogether linter.ruleSource requests next).2.fetched (path, rule)
          :: (askTogether linter.ruleSource requests next).1.received ∧
      (askTogether linter.ruleSource ((path, rule) :: requests) cache).2
        = (askTogether linter.ruleSource requests next).2 := by
  unfold fetchedPaths at h
  simp [askTogether, newPaths, h, Linter.ruleSource, Linter.fetchInTurn, fetchedPaths]

theorem severityIn_askTogether (source : RuleSource σ) (requests : List (Path × Text)) {cache : RuleCache σ}
    {path : Path} {answer : Except LinterFailure Rules} (h : answer? path cache.fetched = some answer) (rule : Text) :
    severityIn (askTogether source requests cache).2.fetched (path, rule)
      = some (answer.map fun rules => Severity.ofRule rules rule) := by
  rw [severityIn, fetched_askTogether, answer?_append, h, Option.some_or, Option.map_some]

/-- Requests that are taken one after the other ask for the same paths in the same order. -/
theorem askTogether_ruleSource (linter : Linter σ) (requests : List (Path × Text)) (cache : RuleCache σ) :
    (askTogether linter.ruleSource requests cache).1.received
        = (severitiesFor linter requests cache).1.map some ∧
      (askTogether linter.ruleSource requests cache).2 = (severitiesFor linter requests cache).2 := by
  induction requests generalizing cache with
  | nil => simp [askTogether, severitiesFor, newPaths, Linter.ruleSource, Linter.fetchInTurn]
  | cons request requests ih =>
    obtain ⟨path, rule⟩ := request
    cases hanswer : answer? path cache.fetched with
    | some answer =>
      have hknown : path ∈ cache.fetchedPaths := by
        by_contra hnot
        rw [answer?_eq_none_iff.2 hnot] at hanswer
        simp at hanswer
      obtain ⟨hreceived, hcache⟩ := askTogether_cons_of_known linter.ruleSource hknown rule requests
      rw [hreceived, hcache, severityIn_askTogether _ _ hanswer, (ih cache).1, (ih cache).2]
      simp [severitiesFor, severityFor, rulesFor, hanswer]
    | none =>
      obtain ⟨hreceived, hcache⟩ :=
        askTogether_cons_of_new linter (answer?_eq_none_iff.1 hanswer) rule requests
      have hnext : answer? path (cache.fetched ++ [(path, (linter.fetchRules path cache.books).1)])
          = some (linter.fetchRules path cache.books).1 := by
        rw [answer?_append, hanswer]
        simp [answer?]
      rw [hreceived, hcache, severityIn_askTogether _ _ hnext, (ih _).1, (ih _).2]
      simp [severitiesFor, severityFor, rulesFor, hanswer]

/-! ### Sources without books -/

/-- What a group with a table leaves for a path: what was there, else the table's answer if it is asked. -/
theorem answer?_askTogether_ofTable (rules : Path → Except LinterFailure Rules) (requests : List (Path × Text))
    (cache : RuleCache σ) (path : Path) :
    answer? path (askTogether (RuleSource.ofTable rules) requests cache).2.fetched
      = (answer? path cache.fetched).or
          (if path ∈ requests.map Prod.fst then some (rules path) else none) := by
  have hfetched : (askTogether (RuleSource.ofTable rules) requests cache).1.fetched
      = (newPaths cache.fetchedPaths (requests.map Prod.fst)).map fun called => (called, rules called) :=
    List.map_prod_left_eq_zip.symm
  rw [fetched_askTogether, answer?_append, hfetched, answer?_map]
  cases hknown : answer? path cache.fetched with
  | some answer => rfl
  | none =>
    have hnew : path ∉ cache.fetchedPaths := answer?_eq_none_iff.1 hknown
    simp only [mem_newPaths, hnew, not_false_eq_true, and_true]

/-- The first group with a request for a path settles its answer. -/
theorem answer?_askGroups_ofTable (tables : List ((Path → Except LinterFailure Rules) × List (Path × Text)))
    (cache : RuleCache σ) (path : Path) :
    answer? path (askGroups (tables.map fun table => (RuleSource.ofTable table.1, table.2)) cache).2.fetched
      = (answer? path cache.fetched).or
          ((tables.find? fun table => table.2.any fun request => request.1 = path).map fun table =>
            table.1 path) := by
  induction tables generalizing cache with
  | nil => simp [askGroups]
  | cons table tables ih =>
    obtain ⟨rules, requests⟩ := table
    have hasked : (requests.any fun request => decide (request.1 = path)) = decide (path ∈ requests.map Prod.fst) := by
      rw [Bool.eq_iff_iff]
      simp
    simp only [List.map_cons, askGroups, ih, answer?_askTogether_ofTable, List.find?_cons, hasked, Option.or_assoc]
    by_cases h : path ∈ requests.map Prod.fst
    · simp only [h, if_true, decide_true, Option.map_some, Option.some_or]
    · simp only [h, if_false, decide_false, Option.none_or]

end RuleCache

/-- However requests are grouped and the rules change between groups, a path is asked for once, in the first
group with a request for it and in the order of the first requests, and what the call returns is the
answer to every request for the path. -/
theorem rules_are_fetched_once :
    (∀ {σ : Type} (groups : List (RuleSource σ × List (Path × Text))) (books : σ),
      let outcomes := (RuleCache.askGroups groups (RuleCache.fresh books)).1
      let log := outcomes.flatMap RuleCache.GroupOutcome.fetched
      (log.map Prod.fst).Nodup ∧
      (∀ n, ((outcomes.take n).flatMap RuleCache.GroupOutcome.fetched).map Prod.fst
        = (((groups.take n).flatMap Prod.snd).map Prod.fst).eraseDups) ∧
      outcomes.map RuleCache.GroupOutcome.received
        = groups.map (fun group => group.2.map (RuleCache.severityIn log)) ∧
      ∀ group ∈ groups, ∀ request ∈ group.2, ∃ answer, (request.1, answer) ∈ log ∧
        RuleCache.severityIn log request
          = some (answer.map fun rules => Severity.ofRule rules request.2)) ∧
    (∀ (tables : List ((Path → Except LinterFailure Rules) × List (Path × Text))),
      (RuleCache.askGroups (tables.map fun table => (RuleSource.ofTable table.1, table.2))
          (RuleCache.fresh ())).1.map RuleCache.GroupOutcome.received
        = tables.map fun table => table.2.map fun request =>
            (tables.find? fun first => first.2.any fun other => other.1 = request.1).map fun first =>
              (first.1 request.1).map fun rules => Severity.ofRule rules request.2) ∧
    (∀ {σ : Type} (linter : Linter σ) (requests : List (Path × Text)) (cache : RuleCache σ),
      (RuleCache.askTogether linter.ruleSource requests cache).1.received
          = (RuleCache.severitiesFor linter requests cache).1.map some ∧
        (RuleCache.askTogether linter.ruleSource requests cache).2
          = (RuleCache.severitiesFor linter requests cache).2) := by
  refine ⟨fun {σ} groups books => ?_, fun tables => ?_, RuleCache.askTogether_ruleSource⟩
  · intro outcomes log
    have hstart : (RuleCache.fresh books).fetchedPaths = ([] : List Path).eraseDups := rfl
    have hlog : (RuleCache.askGroups groups (RuleCache.fresh books)).2.fetched = log :=
      RuleCache.fetched_askGroups groups (RuleCache.fresh books)
    have hcalls : ∀ n, ((outcomes.take n).flatMap RuleCache.GroupOutcome.fetched).map Prod.fst
        = (((groups.take n).flatMap Prod.snd).map Prod.fst).eraseDups := by
      intro n
      have hpaths := RuleCache.fetchedPaths_askGroups (groups.take n) hstart
      rw [RuleCache.fetchedPaths, RuleCache.fetched_askGroups, ← RuleCache.take_askGroups] at hpaths
      exact hpaths
    have hall : log.map Prod.fst = ((groups.flatMap Prod.snd).map Prod.fst).eraseDups := by
      have hpaths := RuleCache.fetchedPaths_askGroups groups hstart
      rwa [RuleCache.fetchedPaths, hlog] at hpaths
    have hnodup : (log.map Prod.fst).Nodup := hall ▸ nodup_eraseDups _
    refine ⟨hnodup, hcalls, hlog ▸ RuleCache.received_askGroups hstart, fun group hgroup request hrequest => ?_⟩
    have hasked : request.1 ∈ log.map Prod.fst := by
      rw [hall, List.mem_eraseDups]
      exact List.mem_map_of_mem (List.mem_flatMap.2 ⟨group, hgroup, hrequest⟩)
    obtain ⟨⟨path, answer⟩, hmem, hpath⟩ := List.mem_map.1 hasked
    obtain rfl : path = request.1 := hpath
    refine ⟨answer, hmem, ?_⟩
    rw [RuleCache.severityIn, RuleCache.answer?_of_mem hnodup hmem, Option.map_some]
  · have hstart : (RuleCache.fresh ()).fetchedPaths = ([] : List Path).eraseDups := rfl
    rw [RuleCache.received_askGroups hstart, List.map_map]
    refine List.map_congr_left fun table _ => List.map_congr_left fun request _ => ?_
    rw [RuleCache.severityIn, RuleCache.answer?_askGroups_ofTable]
    simp only [RuleCache.fresh, RuleCache.answer?, Option.none_or, Option.map_map]
    rfl

/-- Two tables: in the first one a file's rules cannot be told, the second one has other rules for all files. -/
def changedTables : List ((Path → Except LinterFailure Rules) × List (Path × Text)) :=
  let a : Path := ⟨[], [['a']]⟩
  let b : Path := ⟨[], [['b']]⟩
  let c : Path := ⟨[], [['c']]⟩
  [(fun path => if path = b then .error .notJson else .ok [(['x'], .int 2)],
      [(b, ['x']), (a, ['x']), (b, ['y']), (a, ['y'])]),
    (fun _ => .ok [(['x'], .int 1)], [(a, ['x']), (c, ['x']), (b, ['x'])])]

theorem rules_are_fetched_once_of_changedTables :
    let groups := changedTables.map fun table => (RuleSource.ofTable (σ := Unit) table.1, table.2)
    let outcomes := (RuleCache.askGroups groups (RuleCache.fresh ())).1
    (outcomes.flatMap RuleCache.GroupOutcome.fetched).map Prod.fst
        = [⟨[], [['b']]⟩, ⟨[], [['a']]⟩, ⟨[], [['c']]⟩] ∧
      outcomes.map RuleCache.GroupOutcome.received
        = [[some (.error .notJson), some (.ok .error), some (.error .notJson), some (.ok .off)],
          [some (.ok .error), some (.ok .warning), some (.error .notJson)]] := by
  obtain ⟨hruns, htables, -⟩ := rules_are_fetched_once
  obtain ⟨-, hcalls, -, -⟩ := hruns
    (changedTables.map fun table => (RuleSource.ofTable table.1, table.2)) ()
  refine ⟨(hcalls 2).trans ?_, (htables changedTables).trans ?_⟩
  · decide +kernel
  · rfl

end SuppressionAudit

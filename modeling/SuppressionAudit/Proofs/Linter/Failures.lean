import SuppressionAudit.Proofs.Linter.Answers

/-!
# Failed batches

When a batch fails, those that wait for its paths are told so, and the books are left as if nobody had asked
for these paths: answers, queue and the other batches stay. Whoever asks for such a path later is served by
a batch that is cut later, and by the outcome of that batch only.
-/

namespace SuppressionAudit

namespace Batching

/-- A batch that ended, and its outcome. -/
abbrev Ending := List Path × Except LinterFailure (List LinterAnswer)

def Event.endings (s : State) : Event → List Ending
  | .finish index outcome => (s.inFlight[index]?).toList.map fun batch => (batch, outcome)
  | _ => []

/-- The batches that end in a run. -/
def endings : State → List Event → List Ending
  | _, [] => []
  | s, event :: events => event.endings s ++ endings (step s event).2 events

def waitersOf (path : Path) (s : State) : List Ticket := (valueOf? path s.pending).getD []

variable {s : State} {path : Path} {ticket : Ticket} {batch : List Path}

theorem fitsRun_append {events later : List Event} :
    FitsRun s (events ++ later) ↔ FitsRun s events ∧ FitsRun (run s events).2 later := by
  induction events generalizing s with
  | nil => simp [FitsRun, run]
  | cons event events ih => simp only [List.cons_append, FitsRun, run, ih, and_assoc]

/-! ### Entries that stay -/

theorem valueOf?_withoutWaiters (h : path ∉ batch) (pending : List (Path × List Ticket)) :
    valueOf? path (withoutWaiters batch pending) = valueOf? path pending := by
  induction pending with
  | nil => rfl
  | cons entry pending ih =>
    obtain ⟨other, tickets⟩ := entry
    unfold withoutWaiters at ih ⊢
    by_cases hbatch : other ∈ batch
    · have hpath : other ≠ path := fun e => h (e ▸ hbatch)
      rw [List.filter_cons_of_neg (by simpa using hbatch), ih]
      simp only [valueOf?, hpath, if_false]
    · rw [List.filter_cons_of_pos (by simpa using hbatch)]
      simp only [valueOf?, ih]

theorem valueOf?_joinWaiters (asked : Path) (new : Ticket) (pending : List (Path × List Ticket)) :
    valueOf? path (joinWaiters asked new pending)
      = (valueOf? path pending).map fun tickets => if asked = path then tickets ++ [new] else tickets := by
  induction pending with
  | nil => rfl
  | cons entry pending ih =>
    obtain ⟨other, tickets⟩ := entry
    by_cases hasked : other = asked
    · subst hasked
      by_cases hpath : other = path
      · simp [joinWaiters, valueOf?, hpath]
      · simp [joinWaiters, valueOf?, hpath]
    · by_cases hpath : other = path
      · subst hpath
        have hne : ¬ asked = other := fun e => hasked e.symm
        simp [joinWaiters, valueOf?, hasked, hne]
      · simp only [joinWaiters, valueOf?, hasked, hpath, if_false, ih]

/-! ### Waiting until the batch ends -/

theorem waitersOf_request (path asked : Path) (new : Ticket) (s : State) :
    waitersOf path s ⊆ waitersOf path (request asked new s).2 := by
  intro ticket hticket
  rcases request_cases asked new s with ⟨answer, -, heq⟩ | ⟨-, -, heq⟩ | ⟨-, -, heq⟩
  · rw [heq]
    exact hticket
  · rw [heq]
    unfold waitersOf at hticket ⊢
    rw [valueOf?_joinWaiters]
    cases hvalue : valueOf? path s.pending with
    | none => simp [hvalue] at hticket
    | some tickets =>
      have hmem : ticket ∈ tickets := by simpa [hvalue] using hticket
      by_cases h : asked = path
      · simp [h, hmem]
      · simp [h, hmem]
  · rw [heq]
    unfold waitersOf at hticket ⊢
    rw [valueOf?_append]
    cases hvalue : valueOf? path s.pending with
    | none => simp [hvalue] at hticket
    | some tickets => simpa [hvalue] using hticket

theorem waitersOf_finish {index : Nat} {outcome : Except LinterFailure (List LinterAnswer)}
    (h : ∀ ended ∈ Event.endings s (.finish index outcome), path ∉ ended.1) :
    waitersOf path (finish index outcome s).2 = waitersOf path s := by
  cases hbatch : s.inFlight[index]? with
  | none => rw [finish_of_none hbatch]
  | some batch =>
    have hpath : path ∉ batch := h (batch, outcome) (by simp [Event.endings, hbatch])
    simp only [finish_books hbatch, waitersOf, valueOf?_withoutWaiters hpath]

/-- Who waits for a path goes on waiting as long as no batch with it ends. -/
theorem waitersOf_run {events : List Event} (h : ∀ ended ∈ endings s events, path ∉ ended.1) :
    waitersOf path s ⊆ waitersOf path (run s events).2 := by
  induction events generalizing s with
  | nil => exact List.Subset.refl _
  | cons event events ih =>
    have hlater := ih (s := (step s event).2) fun ended hended => h ended (List.mem_append_right _ hended)
    have hone : waitersOf path s ⊆ waitersOf path (step s event).2 := by
      cases event with
      | request asked new => exact waitersOf_request path asked new s
      | cut =>
        rw [step, waitersOf, waitersOf, pending_cut]
        exact List.Subset.refl _
      | finish index outcome =>
        have hnone : ∀ ended ∈ Event.endings s (.finish index outcome), path ∉ ended.1 :=
          fun ended hended => h ended (List.mem_append_left _ hended)
        rw [step, waitersOf_finish hnone]
        exact List.Subset.refl _
    exact List.Subset.trans hone hlater

/-! ### Where batches and answers come from -/

/-- A batch in flight was in flight before, or the run has cut it. -/
theorem mem_inFlight_run {events : List Event} (h : batch ∈ (run s events).2.inFlight) :
    batch ∈ s.inFlight ∨ batch ∈ processes s events := by
  induction events generalizing s with
  | nil => exact .inl h
  | cons event events ih =>
    have hone : ∀ b ∈ (step s event).2.inFlight, b ∈ s.inFlight ∨ b ∈ event.processes s := by
      intro b hb
      cases event with
      | request asked new =>
        rw [step, inFlight_request] at hb
        exact .inl hb
      | cut =>
        rw [step, inFlight_cut] at hb
        exact List.mem_append.1 hb
      | finish index outcome =>
        refine .inl ?_
        cases hbatch : s.inFlight[index]? with
        | none => simpa only [step, finish_of_none hbatch] using hb
        | some batch =>
          rw [step, finish_books hbatch] at hb
          exact List.mem_of_mem_eraseIdx hb
    rcases ih h with hbefore | hcut
    · rcases hone batch hbefore with hold | hnew
      · exact .inl hold
      · exact .inr (List.mem_append_left _ hnew)
    · exact .inr (List.mem_append_right _ hcut)

theorem mem_endings {events : List Event} {ended : Ending} (h : ended ∈ endings s events) :
    ended.1 ∈ s.inFlight ∨ ended.1 ∈ processes s events := by
  induction events generalizing s with
  | nil => simp [endings] at h
  | cons event events ih =>
    rcases List.mem_append.1 h with hnow | hlater
    · cases event with
      | request asked new => simp [Event.endings] at hnow
      | cut => simp [Event.endings] at hnow
      | finish index outcome =>
        cases hbatch : s.inFlight[index]? with
        | none => simp [Event.endings, hbatch] at hnow
        | some batch =>
          have hended : ended = (batch, outcome) := by simpa [Event.endings, hbatch] using hnow
          rw [hended]
          exact .inl (List.mem_of_getElem? hbatch)
    · have hflight : ended.1 ∈ (step s event).2.inFlight → ended.1 ∈ s.inFlight ∨ ended.1 ∈ event.processes s := by
        intro hmem
        have hone := @mem_inFlight_run s ended.1 [event] hmem
        simpa [processes] using hone
      rcases ih hlater with hbefore | hcut
      · rcases hflight hbefore with hold | hnew
        · exact .inl hold
        · exact .inr (List.mem_append_left _ hnew)
      · exact .inr (List.mem_append_right _ hcut)

theorem mem_results_finish (h : Consistent s) {index : Nat}
    {outcome : Except LinterFailure (List LinterAnswer)} (hfits : Event.Fits s (.finish index outcome))
    {answer : LinterAnswer} (hmem : (path, answer) ∈ (finish index outcome s).2.results) :
    (path, answer) ∈ s.results ∨ ∃ ended ∈ Event.endings s (.finish index outcome),
      path ∈ ended.1 ∧ outcomeFor ended.1 ended.2 path = some (.ok answer) := by
  cases hbatch : s.inFlight[index]? with
  | none => exact .inl (by simpa only [finish_of_none hbatch] using hmem)
  | some batch =>
    rw [finish_books hbatch] at hmem
    rcases List.mem_append.1 hmem with hold | hnew
    · exact .inl hold
    cases outcome with
    | error failure => exact absurd hnew List.not_mem_nil
    | ok answers =>
      have hlen : answers.length = batch.length := hfits batch hbatch
      have hpaths : paths (batch.zip answers) = batch := List.map_fst_zip (Nat.le_of_eq hlen.symm)
      have hnodup : (paths (batch.zip answers)).Nodup := by
        rw [hpaths]
        exact h.batch_nodup hbatch
      refine .inr ⟨(batch, .ok answers), by simp [Event.endings, hbatch], (List.of_mem_zip hnew).1, ?_⟩
      simp only [outcomeFor, valueOf?_of_mem hnodup hnew, Option.map_some]

/-- An answer that is kept was kept before, or it is the one that a batch of the run gave. -/
theorem mem_results_run (h : Consistent s) {events : List Event} (hfits : FitsRun s events)
    {answer : LinterAnswer} (hmem : (path, answer) ∈ (run s events).2.results) :
    (path, answer) ∈ s.results ∨ ∃ ended ∈ endings s events,
      path ∈ ended.1 ∧ outcomeFor ended.1 ended.2 path = some (.ok answer) := by
  induction events generalizing s with
  | nil => exact .inl hmem
  | cons event events ih =>
    rcases ih (h.step hfits.1) hfits.2 hmem with hbefore | ⟨ended, hended, hpath⟩
    · cases event with
      | request asked new =>
        rw [step, results_request] at hbefore
        exact .inl hbefore
      | cut =>
        rw [step, results_cut] at hbefore
        exact .inl hbefore
      | finish index outcome =>
        rcases mem_results_finish h hfits.1 hbefore with hold | ⟨ended, hended, hpath⟩
        · exact .inl hold
        · exact .inr ⟨ended, List.mem_append_left _ hended, hpath⟩
    · exact .inr ⟨ended, List.mem_append_right _ hended, hpath⟩

/-! ### What one batch tells one request -/

theorem mem_finish_of_waits (h : Consistent s) {index : Nat} (hbatch : s.inFlight[index]? = some batch)
    (hpath : path ∈ batch) (hwaits : ticket ∈ waitersOf path s)
    {outcome : Except LinterFailure (List LinterAnswer)} (hfits : Event.Fits s (.finish index outcome)) :
    ∃ o, outcomeFor batch outcome path = some o ∧ (ticket, o) ∈ (finish index outcome s).1 := by
  have hentry : ∃ tickets, valueOf? path s.pending = some tickets ∧ ticket ∈ tickets := by
    unfold waitersOf at hwaits
    cases hvalue : valueOf? path s.pending with
    | none => simp [hvalue] at hwaits
    | some tickets => exact ⟨tickets, rfl, by simpa [hvalue] using hwaits⟩
  obtain ⟨tickets, hvalue, hticket⟩ := hentry
  have hdue : (ticket, outcomeFor batch outcome path) ∈ due s batch outcome := by
    refine List.mem_flatMap.2 ⟨(path, tickets), List.mem_filter.2 ⟨mem_of_valueOf?_eq_some hvalue, ?_⟩, ?_⟩
    · simpa using hpath
    · exact List.mem_map.2 ⟨ticket, hticket, rfl⟩
  obtain ⟨d, hd, heq⟩ := List.mem_map.1 ((h.delivered_perm hbatch hfits).mem_iff.2 hdue)
  obtain ⟨rfl, ho⟩ := Prod.mk.inj heq
  exact ⟨d.2, ho.symm, hd⟩

/-- A ticket that is waited on once is told one thing. -/
theorem told_once (h : Consistent s) {events : List Event} (hfits : FitsRun s events)
    (hone : (waiting s).count ticket = 1) (hfresh : ticket ∉ requested events) {o : Outcome}
    (hmem : (ticket, o) ∈ (run s events).1) :
    ((run s events).1.filter fun d => d.1 == ticket) = [(ticket, o)] := by
  have hcount := (h.accounts_run hfits).count_eq ticket
  rw [List.count_append, List.count_append, hone, List.count_eq_zero_of_not_mem hfresh] at hcount
  have hfilter : ((run s events).1.filter fun d => d.1 == ticket).length
      = ((run s events).1.map Prod.fst).count ticket := by
    rw [List.count, List.countP_map, List.countP_eq_length_filter]
    rfl
  have hin : (ticket, o) ∈ (run s events).1.filter fun d => d.1 == ticket :=
    List.mem_filter.2 ⟨hmem, by simp⟩
  have hle : ((run s events).1.filter fun d => d.1 == ticket).length ≤ 1 := by
    rw [hfilter]
    omega
  cases hlist : (run s events).1.filter fun d => d.1 == ticket with
  | nil => simp [hlist] at hin
  | cons d rest =>
    rw [hlist] at hin hle
    have hrest : rest = [] := List.eq_nil_of_length_eq_zero (by
      simp only [List.length_cons] at hle
      omega)
    rw [hrest] at hin ⊢
    rw [List.mem_singleton.1 hin]

/-- Nothing is told to a request for a path before a batch with the path ends, such a batch is under way,
and then the request is told what the outcome of that batch is for the path, and nothing else. -/
structure DecidedByBatch (s : State) (path : Path) (ticket : Ticket) (events : List Event) : Prop where
  tracked : path ∈ (run s events).2.queue ++ (run s events).2.inFlight.flatten
  told : ∀ index batch, (run s events).2.inFlight[index]? = some batch → path ∈ batch →
    ∀ outcome, Event.Fits (run s events).2 (.finish index outcome) →
      ∃ o, outcomeFor batch outcome path = some o ∧
        ((run s (events ++ [.finish index outcome])).1.filter fun d => d.1 == ticket) = [(ticket, o)]

theorem decidedByBatch_of_waits (h : Consistent s) (hwaits : ticket ∈ waitersOf path s)
    (hone : (waiting s).count ticket = 1) {events : List Event} (hfits : FitsRun s events)
    (hfresh : ticket ∉ requested events) (hnone : ∀ ended ∈ endings s events, path ∉ ended.1) :
    DecidedByBatch s path ticket events := by
  have hlater := h.run hfits
  have hstill : ticket ∈ waitersOf path (run s events).2 := waitersOf_run hnone hwaits
  refine ⟨?_, ?_⟩
  · have hpending : path ∈ paths (run s events).2.pending := by
      by_contra hnot
      rw [waitersOf, valueOf?_eq_none_iff.2 hnot] at hstill
      simp at hstill
    exact hlater.tracked.mem_iff.2 hpending
  · intro index batch hbatch hpath outcome houtcome
    obtain ⟨o, ho, hmem⟩ := mem_finish_of_waits hlater hbatch hpath hstill houtcome
    have hall : FitsRun s (events ++ [.finish index outcome]) :=
      fitsRun_append.2 ⟨hfits, houtcome, trivial⟩
    refine ⟨o, ho, told_once h hall hone ?_ ?_⟩
    · simpa [requested, Event.tickets] using hfresh
    · rw [run_append]
      simp only [run, step, List.append_nil]
      exact List.mem_append_right _ hmem

/-! ### After a failure -/

/-- What the end of a batch by a failure changes, and what it leaves alone. -/
structure FailsAlone (s after : State) (told : List (Ticket × Outcome)) (batch : List Path)
    (failure : LinterFailure) : Prop where
  results : after.results = s.results
  queue : after.queue = s.queue
  scheduled : after.flushScheduled = s.flushScheduled
  others : ∃ front back, s.inFlight = front ++ batch :: back ∧ after.inFlight = front ++ back
  leave : ∀ path, path ∈ paths s.pending ∧ path ∉ paths after.pending ↔ path ∈ batch
  stay : ∀ path, path ∉ batch → waitersOf path after = waitersOf path s
  fail : ∀ ticket o, (ticket, o) ∈ told ↔ o = .error failure ∧ ∃ path ∈ batch, ticket ∈ waitersOf path s
  accounted : (waiting s).Perm (told.map Prod.fst ++ waiting after)

/-- How a request for a path is served that comes after the events `later`, from the books `s` on. The
first one joins the queue. What is answered at once was answered by a batch that was cut since then. Who
waits is told what the next batch with the path ends with, and this batch was cut since then. -/
structure ServedAnew (s : State) (later : List Event) (path : Path) (ticket : Ticket) : Prop where
  queued : path ∉ (requests later).map Prod.snd →
    (request path ticket (run s later).2).1 = none ∧
      (request path ticket (run s later).2).2.queue = (run s later).2.queue ++ [path]
  known : ∀ answer, (request path ticket (run s later).2).1 = some answer →
    ∃ ended ∈ endings s later, ended.1 ∈ processes s later ∧ path ∈ ended.1 ∧
      outcomeFor ended.1 ended.2 path = some (.ok answer)
  decided : (request path ticket (run s later).2).1 = none → ticket ∉ waiting (run s later).2 →
    ∀ more, FitsRun (request path ticket (run s later).2).2 more → ticket ∉ requested more →
      (∀ ended ∈ endings (request path ticket (run s later).2).2 more, path ∉ ended.1) →
      DecidedByBatch (request path ticket (run s later).2).2 path ticket more
  cutSince : ∀ events batch, batch ∈ (run s events).2.inFlight → path ∈ batch → batch ∈ processes s events

theorem failsAlone_of_consistent (h : Consistent s) {index : Nat} (hbatch : s.inFlight[index]? = some batch)
    (failure : LinterFailure) :
    FailsAlone s (finish index (.error failure) s).2 (finish index (.error failure) s).1 batch failure := by
  have hfits : Event.Fits s (.finish index (.error failure)) := trivial
  have haccounts := h.accounts hfits
  have hsubset := h.batch_subset hbatch
  simp only [step, Event.tickets, List.append_nil] at haccounts
  refine ⟨?_, ?_, ?_, ?_, ?_, ?_, ?_, haccounts⟩
  all_goals simp only [finish, hbatch]
  · obtain ⟨hlt, hget⟩ := List.getElem?_eq_some_iff.1 hbatch
    refine ⟨s.inFlight.take index, s.inFlight.drop (index + 1), ?_, List.eraseIdx_eq_take_drop_succ _ _⟩
    rw [← hget, List.getElem_cons_drop, List.take_append_drop]
  · intro path
    rw [paths_withoutWaiters, List.mem_filter]
    constructor
    · rintro ⟨hpending, hnot⟩
      by_contra hpath
      exact hnot ⟨hpending, by simpa using hpath⟩
    · intro hpath
      exact ⟨hsubset path hpath, fun hmem => by simp [hpath] at hmem⟩
  · intro path hpath
    simp only [waitersOf, valueOf?_withoutWaiters hpath]
  · intro ticket o
    simp only [List.mem_flatMap, deliver, List.mem_map, Prod.mk.injEq]
    constructor
    · rintro ⟨path, hpath, t, ht, rfl, rfl⟩
      exact ⟨rfl, path, hpath, ht⟩
    · rintro ⟨rfl, path, hpath, ht⟩
      exact ⟨path, hpath, ticket, ht, rfl, rfl⟩

theorem waits_of_request_eq_none (h : Consistent s) (hnone : (request path ticket s).1 = none)
    (hfresh : ticket ∉ waiting s) :
    ticket ∈ waitersOf path (request path ticket s).2 ∧ (waiting (request path ticket s).2).count ticket = 1 := by
  constructor
  · unfold waitersOf
    rcases request_cases path ticket s with ⟨answer, -, heq⟩ | ⟨-, hpending, heq⟩ | ⟨-, hpending, heq⟩
    · rw [heq] at hnone
      exact absurd hnone (Option.some_ne_none answer)
    · rw [heq]
      dsimp only
      rw [valueOf?_joinWaiters]
      cases hvalue : valueOf? path s.pending with
      | none => exact absurd hpending (valueOf?_eq_none_iff.1 hvalue)
      | some tickets => simp
    · rw [heq]
      simp [valueOf?_append, valueOf?_eq_none_iff.2 hpending, valueOf?]
  · have hfits : Event.Fits s (.request path ticket) := trivial
    have haccounts := h.accounts hfits
    simp only [step, hnone, Event.tickets, List.map_nil, List.nil_append] at haccounts
    rw [← haccounts.count_eq, List.count_append, List.count_eq_zero_of_not_mem hfresh]
    simp

/-- A path that nobody waits for and that has no answer. -/
structure Unknown (path : Path) (s : State) : Prop where
  results : path ∉ paths s.results
  pending : path ∉ paths s.pending

namespace Unknown

theorem request (h : Unknown path s) {asked : Path} (hne : path ≠ asked) (new : Ticket) :
    Unknown path (Batching.request asked new s).2 := by
  rcases request_cases asked new s with ⟨answer, -, heq⟩ | ⟨-, -, heq⟩ | ⟨-, -, heq⟩
  · rw [heq]
    exact h
  · rw [heq]
    exact ⟨h.results, by rw [paths_joinWaiters]; exact h.pending⟩
  · rw [heq]
    refine ⟨h.results, ?_⟩
    simpa [paths, hne] using h.pending

theorem cut (h : Unknown path s) : Unknown path (Batching.cut s) :=
  ⟨by rw [results_cut]; exact h.results, by rw [pending_cut]; exact h.pending⟩

theorem finish (h : Unknown path s) (hs : Consistent s) {index : Nat}
    {outcome : Except LinterFailure (List LinterAnswer)} (hfits : Event.Fits s (.finish index outcome)) :
    Unknown path (Batching.finish index outcome s).2 := by
  cases hbatch : s.inFlight[index]? with
  | none =>
    rw [finish_of_none hbatch]
    exact h
  | some batch =>
    refine ⟨fun hmem => ?_, fun hmem => ?_⟩
    · obtain ⟨entry, hentry, rfl⟩ := List.mem_map.1 hmem
      rcases mem_results_finish hs hfits hentry with hold | ⟨ended, hended, hpath, -⟩
      · exact h.results (List.mem_map.2 ⟨entry, hold, rfl⟩)
      · have heq : ended = (batch, outcome) := by simpa [Event.endings, hbatch] using hended
        rw [heq] at hpath
        exact h.pending (hs.batch_subset hbatch _ hpath)
    · rw [finish_books hbatch] at hmem
      dsimp only at hmem
      rw [paths_withoutWaiters] at hmem
      exact h.pending (List.mem_filter.1 hmem).1

/-- A path is unknown until it is asked for. -/
theorem run (h : Unknown path s) (hs : Consistent s) {events : List Event} (hfits : FitsRun s events)
    (hnot : path ∉ (requests events).map Prod.snd) : Unknown path (Batching.run s events).2 := by
  induction events generalizing s with
  | nil => exact h
  | cons event events ih =>
    rw [requests, List.flatMap_cons, List.map_append, List.mem_append, not_or] at hnot
    have hone : Unknown path (step s event).2 := by
      cases event with
      | request asked new => exact h.request (by simpa [Event.requests] using hnot.1) new
      | cut => exact h.cut
      | finish index outcome => exact h.finish hs hfits.1
    exact ih hone (hs.step hfits.1) hfits.2 hnot.2

end Unknown

theorem servedAnew_of_unknown (h : Consistent s) (hresults : path ∉ paths s.results)
    (hpending : path ∉ paths s.pending) {later : List Event} (hfits : FitsRun s later) (ticket : Ticket) :
    ServedAnew s later path ticket := by
  have hlater := h.run hfits
  have hflight : ∀ batch ∈ s.inFlight, path ∉ batch := by
    intro batch hbatch hpath
    refine hpending (h.tracked.mem_iff.1 (List.mem_append_right _ ?_))
    exact List.mem_flatten.2 ⟨batch, hbatch, hpath⟩
  refine ⟨?_, ?_, ?_, ?_⟩
  · intro hnot
    have hunknown := Unknown.run ⟨hresults, hpending⟩ h hfits hnot
    rcases request_cases path ticket (run s later).2 with ⟨answer, hresult, -⟩ | ⟨-, hwaits, -⟩ | ⟨-, -, heq⟩
    · exact absurd (List.mem_map.2 ⟨_, mem_of_valueOf?_eq_some hresult, rfl⟩) hunknown.results
    · exact absurd hwaits hunknown.pending
    · rw [heq]
      exact ⟨rfl, rfl⟩
  · intro answer hanswer
    have hvalue : valueOf? path (run s later).2.results = some answer := by
      rcases request_cases path ticket (run s later).2 with ⟨found, hresult, heq⟩ | ⟨-, -, heq⟩ | ⟨-, -, heq⟩
      · rw [heq] at hanswer
        rw [hresult, ← hanswer]
      · rw [heq] at hanswer
        exact absurd hanswer.symm (Option.some_ne_none answer)
      · rw [heq] at hanswer
        exact absurd hanswer.symm (Option.some_ne_none answer)
    rcases mem_results_run h hfits (mem_of_valueOf?_eq_some hvalue) with hold | ⟨ended, hended, hpath, ho⟩
    · exact absurd (List.mem_map.2 ⟨_, hold, rfl⟩) hresults
    · refine ⟨ended, hended, ?_, hpath, ho⟩
      exact (mem_endings hended).resolve_left fun hmem => hflight _ hmem hpath
  · intro hnone hfresh more hmore hunasked hends
    obtain ⟨hwaits, hone⟩ := waits_of_request_eq_none hlater hnone hfresh
    exact decidedByBatch_of_waits (hlater.request path ticket) hwaits hone hmore hunasked hends
  · intro events batch hbatch hpath
    exact (mem_inFlight_run hbatch).resolve_left fun hmem => hflight _ hmem hpath

/-- After every run, a batch that fails takes nothing but its own paths out of the books and tells its
failure to those that wait for them and to nobody else; whoever asks for one of these paths later, however
the run goes on, is served by a batch that is cut after the failure and by its outcome alone. -/
theorem failed_batch_leaves_no_trace (events : List Event) (hfits : FitsRun State.initial events)
    {index : Nat} {batch : List Path} (hbatch : (booksAfter events).inFlight[index]? = some batch)
    (failure : LinterFailure) :
    FailsAlone (booksAfter events) (finish index (.error failure) (booksAfter events)).2
        (finish index (.error failure) (booksAfter events)).1 batch failure ∧
      ∀ path ∈ batch, ∀ later, FitsRun (finish index (.error failure) (booksAfter events)).2 later →
        ∀ ticket, ServedAnew (finish index (.error failure) (booksAfter events)).2 later path ticket := by
  have hbooks : Consistent (booksAfter events) := Consistent.initial.run hfits
  have halone := failsAlone_of_consistent hbooks hbatch failure
  refine ⟨halone, fun path hpath later hlater ticket => ?_⟩
  have hleft := (halone.leave path).2 hpath
  have hunanswered := hbooks.unanswered path hleft.1
  rw [← halone.results] at hunanswered
  have hfailed : Event.Fits (booksAfter events) (.finish index (.error failure)) := trivial
  exact servedAnew_of_unknown (hbooks.finish hfailed) hunanswered hleft.2 hlater ticket

/-- Two requests for one file in a batch, another file in a second batch, and a third file in the queue. -/
def twoInFlight : List Event :=
  [.request ⟨[], [['a']]⟩ 0, .request ⟨[], [['a']]⟩ 1, .cut, .request ⟨[], [['b']]⟩ 2, .cut,
    .request ⟨[], [['c']]⟩ 3]

theorem failed_batch_leaves_no_trace_of_two :
    FitsRun State.initial twoInFlight ∧ (booksAfter twoInFlight).inFlight[0]? = some [⟨[], [['a']]⟩] ∧
      (finish 0 (.error .notJson) (booksAfter twoInFlight)).1 = [(0, .error .notJson), (1, .error .notJson)] ∧
      FailsAlone (booksAfter twoInFlight) (finish 0 (.error .notJson) (booksAfter twoInFlight)).2
        (finish 0 (.error .notJson) (booksAfter twoInFlight)).1 [⟨[], [['a']]⟩] .notJson ∧
      DecidedByBatch
        (request ⟨[], [['a']]⟩ 4 (finish 0 (.error .notJson) (booksAfter twoInFlight)).2).2
        ⟨[], [['a']]⟩ 4 [.cut, .finish 0 (.error .tooDeep)] := by
  have hfits : FitsRun State.initial twoInFlight := ⟨trivial, trivial, trivial, trivial, trivial, trivial, trivial⟩
  have hbatch : (booksAfter twoInFlight).inFlight[0]? = some [⟨[], [['a']]⟩] := rfl
  have hall := failed_batch_leaves_no_trace twoInFlight hfits hbatch .notJson
  have hserved := hall.2 ⟨[], [['a']]⟩ List.mem_cons_self [] trivial 4
  refine ⟨hfits, hbatch, rfl, hall.1, ?_⟩
  refine hserved.decided rfl (by decide) [.cut, .finish 0 (.error .tooDeep)] ⟨trivial, trivial, trivial⟩ ?_ ?_
  · decide
  · intro ended hended
    obtain rfl : ended = ([⟨[], [['b']]⟩], .error .tooDeep) := List.mem_singleton.1 hended
    decide

end Batching

end SuppressionAudit

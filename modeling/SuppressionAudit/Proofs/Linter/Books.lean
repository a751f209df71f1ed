import Mathlib.Data.List.Perm.Basic
import SuppressionAudit.Linter.Batching
import SuppressionAudit.Proofs.Entries

/-!
# Consistent books

However requests, cuts and ends of batches follow each other, the books on requests fit together. Every
path that is waited for is in the queue or in one batch in flight, once, and nowhere is a path that is
not waited for; no such path has an answer; and a flush is scheduled when and only when the queue is not
empty. So the end of a batch finds all of its paths, and every request receives one outcome.
-/

namespace SuppressionAudit

namespace Batching

def paths {α : Type} (entries : List (Path × α)) : List Path := entries.map Prod.fst

def waiting (s : State) : List Ticket := s.pending.flatMap Prod.snd

/-- What holds of the books between any two events. -/
structure Consistent (s : State) : Prop where
  pending_nodup : (paths s.pending).Nodup
  tracked : (s.queue ++ s.inFlight.flatten).Perm (paths s.pending)
  unanswered : ∀ path ∈ paths s.pending, path ∉ paths s.results
  results_nodup : (paths s.results).Nodup
  scheduled : s.queue ≠ [] ↔ s.flushScheduled = true

/-- The answers of a batch are as many as its paths. -/
def Event.Fits (s : State) : Event → Prop
  | .finish index (.ok answers) => ∀ batch, s.inFlight[index]? = some batch → answers.length = batch.length
  | _ => True

def FitsRun : State → List Event → Prop
  | _, [] => True
  | s, event :: events => event.Fits s ∧ FitsRun (step s event).2 events

/-! ### Entries by path -/

variable {α : Type} {path : Path} {entries : List (Path × α)}

theorem valueOf?_eq_lookup (path : Path) (entries : List (Path × α)) :
    valueOf? path entries = entries.lookup path := by
  induction entries with
  | nil => rfl
  | cons entry entries ih =>
    obtain ⟨other, value⟩ := entry
    by_cases h : other = path
    · simp [valueOf?, h]
    · have hne : (path == other) = false := beq_false_of_ne (Ne.symm h)
      simp only [valueOf?, h, if_false, ih, List.lookup_cons, hne]

theorem valueOf?_eq_none_iff : valueOf? path entries = none ↔ path ∉ paths entries := by
  rw [valueOf?_eq_lookup, Entries.lookup_eq_none_iff_notMem_keys, paths]

theorem valueOf?_of_mem {value : α} (hnodup : (paths entries).Nodup) (h : (path, value) ∈ entries) :
    valueOf? path entries = some value := by
  rw [valueOf?_eq_lookup]
  exact (Entries.lookup_eq_some_iff_mem hnodup).2 h

theorem mem_of_valueOf?_eq_some {value : α} (h : valueOf? path entries = some value) : (path, value) ∈ entries := by
  rw [valueOf?_eq_lookup] at h
  exact Entries.mem_of_lookup_eq_some h

theorem valueOf?_append (entries more : List (Path × α)) :
    valueOf? path (entries ++ more) = (valueOf? path entries).or (valueOf? path more) := by
  simp only [valueOf?_eq_lookup, List.lookup_append]

theorem paths_joinWaiters (ticket : Ticket) (pending : List (Path × List Ticket)) :
    paths (joinWaiters path ticket pending) = paths pending := by
  induction pending with
  | nil => rfl
  | cons entry pending ih =>
    obtain ⟨other, tickets⟩ := entry
    by_cases h : other = path
    · simp [joinWaiters, paths, h]
    · simp only [joinWaiters, h, if_false]
      simp only [paths, List.map_cons] at ih ⊢
      rw [ih]

theorem perm_joinWaiters {β : Type} {ticket : Ticket} {pending : List (Path × List Ticket)}
    (h : path ∈ paths pending) (give : Path → Ticket → β) :
    ((joinWaiters path ticket pending).flatMap fun entry => entry.2.map (give entry.1)).Perm
      ((pending.flatMap fun entry => entry.2.map (give entry.1)) ++ [give path ticket]) := by
  induction pending with
  | nil => simp [paths] at h
  | cons entry pending ih =>
    obtain ⟨other, tickets⟩ := entry
    by_cases hpath : other = path
    · simp only [joinWaiters, hpath, if_true, List.flatMap_cons, List.map_append, List.map_cons, List.map_nil,
        List.append_assoc]
      exact List.perm_append_comm.append_left _
    · have hlater : path ∈ paths pending := by
        rcases List.mem_cons.1 h with heq | hmem
        · exact absurd heq.symm hpath
        · exact hmem
      simp only [joinWaiters, hpath, if_false, List.flatMap_cons, List.append_assoc]
      exact (ih hlater).append_left _

theorem tickets_joinWaiters {ticket : Ticket} {pending : List (Path × List Ticket)}
    (h : path ∈ paths pending) :
    ((joinWaiters path ticket pending).flatMap Prod.snd).Perm (pending.flatMap Prod.snd ++ [ticket]) := by
  have hperm := @perm_joinWaiters path Ticket ticket pending h fun _ t => t
  simpa only [List.map_id'] using hperm

theorem paths_withoutWaiters (batch : List Path) (pending : List (Path × List Ticket)) :
    paths (withoutWaiters batch pending) = (paths pending).filter fun p => !batch.contains p := by
  simp only [paths, withoutWaiters, List.filter_map]
  rfl

/-! ### What an event does -/

/-- The answers that the end of a batch adds to those that are kept. -/
def answersOf (batch : List Path) : Except LinterFailure (List LinterAnswer) → List (Path × LinterAnswer)
  | .error _ => []
  | .ok answers => batch.zip answers

section

variable {s : State} {index : Nat} {batch : List Path} {outcome : Except LinterFailure (List LinterAnswer)}

/-- A request is answered from what is kept, or it joins those that wait for its path, or its path is queued. -/
theorem request_cases (path : Path) (ticket : Ticket) (s : State) :
    (∃ answer, valueOf? path s.results = some answer ∧ request path ticket s = (some answer, s)) ∨
      (path ∉ paths s.results ∧ path ∈ paths s.pending ∧
        request path ticket s = (none, { s with pending := joinWaiters path ticket s.pending })) ∨
      (path ∉ paths s.results ∧ path ∉ paths s.pending ∧
        request path ticket s =
          (none,
            { s with
              pending := s.pending ++ [(path, [ticket])]
              queue := s.queue ++ [path]
              flushScheduled := true })) := by
  cases hresult : valueOf? path s.results with
  | some answer => exact .inl ⟨answer, rfl, by simp only [request, hresult]⟩
  | none =>
    have hunanswered := valueOf?_eq_none_iff.1 hresult
    cases hpending : valueOf? path s.pending with
    | some tickets =>
      refine .inr (.inl ⟨hunanswered, ?_, by simp only [request, hresult, hpending]⟩)
      exact List.mem_map.2 ⟨_, mem_of_valueOf?_eq_some hpending, rfl⟩
    | none =>
      refine .inr (.inr ⟨hunanswered, valueOf?_eq_none_iff.1 hpending, ?_⟩)
      simp only [request, hresult, hpending]

theorem cut_cases (s : State) :
    (s.flushScheduled = true ∧
        cut s = { s with queue := [], flushScheduled := false, inFlight := s.inFlight ++ [s.queue] }) ∨
      (s.flushScheduled = false ∧ cut s = s) := by
  cases hflush : s.flushScheduled with
  | true => exact .inl ⟨rfl, by simp only [cut, hflush, if_true]⟩
  | false => exact .inr ⟨rfl, by simp only [cut, hflush, Bool.false_eq_true, if_false]⟩

theorem finish_of_none (h : s.inFlight[index]? = none) : finish index outcome s = ([], s) := by
  simp only [finish, h]

/-- The end of a batch takes its paths off the entries that wait, and keeps the answers for them if there are any. -/
theorem finish_books (h : s.inFlight[index]? = some batch) :
    (finish index outcome s).2 =
      { s with
        pending := withoutWaiters batch s.pending
        inFlight := s.inFlight.eraseIdx index
        results := s.results ++ answersOf batch outcome } := by
  cases outcome with
  | error failure => simp only [finish, h, answersOf, List.append_nil]
  | ok answers => simp only [finish, h, answersOf]

theorem results_request (path : Path) (ticket : Ticket) (s : State) :
    (request path ticket s).2.results = s.results := by
  rcases request_cases path ticket s with ⟨answer, -, heq⟩ | ⟨-, -, heq⟩ | ⟨-, -, heq⟩ <;> rw [heq]

theorem inFlight_request (path : Path) (ticket : Ticket) (s : State) :
    (request path ticket s).2.inFlight = s.inFlight := by
  rcases request_cases path ticket s with ⟨answer, -, heq⟩ | ⟨-, -, heq⟩ | ⟨-, -, heq⟩ <;> rw [heq]

theorem results_cut (s : State) : (cut s).results = s.results := by
  rcases cut_cases s with ⟨-, heq⟩ | ⟨-, heq⟩ <;> rw [heq]

theorem pending_cut (s : State) : (cut s).pending = s.pending := by
  rcases cut_cases s with ⟨-, heq⟩ | ⟨-, heq⟩ <;> rw [heq]

theorem inFlight_cut (s : State) : (cut s).inFlight = s.inFlight ++ if s.flushScheduled then [s.queue] else [] := by
  rcases cut_cases s with ⟨hflush, heq⟩ | ⟨hflush, heq⟩ <;> simp [heq, hflush]

end

/-! ### One event -/

namespace Consistent

variable {s : State}

theorem initial : Consistent State.initial := by
  refine ⟨List.nodup_nil, List.Perm.refl _, ?_, List.nodup_nil, ?_⟩
  · simp [State.initial, paths]
  · simp [State.initial]

theorem request (h : Consistent s) (path : Path) (ticket : Ticket) :
    Consistent (Batching.request path ticket s).2 := by
  rcases request_cases path ticket s with ⟨answer, -, heq⟩ | ⟨-, -, heq⟩ | ⟨hunanswered, hnew, heq⟩
  · rw [heq]
    exact h
  · rw [heq]
    refine ⟨?_, ?_, ?_, h.results_nodup, h.scheduled⟩
    · rw [paths_joinWaiters]
      exact h.pending_nodup
    · rw [paths_joinWaiters]
      exact h.tracked
    · rw [paths_joinWaiters]
      exact h.unanswered
  · rw [heq]
    have hpaths : paths (s.pending ++ [(path, [ticket])]) = paths s.pending ++ [path] := by
      simp [paths]
    refine ⟨?_, ?_, ?_, h.results_nodup, by simp⟩
    · rw [hpaths]
      refine List.nodup_append.2 ⟨h.pending_nodup, List.pairwise_singleton _ _, ?_⟩
      intro a ha b hb heq
      rw [List.mem_singleton.1 hb] at heq
      exact hnew (heq ▸ ha)
    · rw [hpaths]
      have hmove : (s.queue ++ [path] ++ s.inFlight.flatten).Perm
          (s.queue ++ s.inFlight.flatten ++ [path]) := by
        rw [List.append_assoc, List.append_assoc]
        exact List.perm_append_comm.append_left s.queue
      exact hmove.trans (h.tracked.append_right [path])
    · rw [hpaths]
      intro p hp
      rcases List.mem_append.1 hp with hp | hp
      · exact h.unanswered p hp
      · rw [List.mem_singleton.1 hp]
        exact hunanswered

theorem cut (h : Consistent s) : Consistent (Batching.cut s) := by
  rcases cut_cases s with ⟨-, heq⟩ | ⟨-, heq⟩
  · rw [heq]
    refine ⟨h.pending_nodup, ?_, h.unanswered, h.results_nodup, by simp⟩
    simp only [List.nil_append, List.flatten_append, List.flatten_singleton]
    exact List.perm_append_comm.trans h.tracked
  · rw [heq]
    exact h

theorem tracked_batch (h : Consistent s) {index : Nat} {batch : List Path}
    (hbatch : s.inFlight[index]? = some batch) :
    (batch ++ (s.queue ++ (s.inFlight.eraseIdx index).flatten)).Perm (paths s.pending) := by
  obtain ⟨hlt, hget⟩ := List.getElem?_eq_some_iff.1 hbatch
  have hflatten : (batch ++ (s.inFlight.eraseIdx index).flatten).Perm s.inFlight.flatten := by
    have hperm := (List.getElem_cons_eraseIdx_perm hlt).flatten
    rwa [List.flatten_cons, hget] at hperm
  have hswap : (batch ++ (s.queue ++ (s.inFlight.eraseIdx index).flatten)).Perm
      (s.queue ++ (batch ++ (s.inFlight.eraseIdx index).flatten)) :=
    List.perm_append_comm_assoc _ _ _
  exact hswap.trans ((hflatten.append_left s.queue).trans h.tracked)

variable {index : Nat} {batch : List Path}

theorem batch_nodup (h : Consistent s) (hbatch : s.inFlight[index]? = some batch) : batch.Nodup := by
  have hall := (h.tracked_batch hbatch).nodup_iff.2 h.pending_nodup
  exact (List.nodup_append.1 hall).1

theorem batch_subset (h : Consistent s) (hbatch : s.inFlight[index]? = some batch) :
    ∀ path ∈ batch, path ∈ paths s.pending := by
  intro path hpath
  exact (h.tracked_batch hbatch).mem_iff.1 (List.mem_append_left _ hpath)

theorem withoutBatch (h : Consistent s) (hbatch : s.inFlight[index]? = some batch) :
    Consistent { s with
      pending := withoutWaiters batch s.pending
      inFlight := s.inFlight.eraseIdx index } := by
  have hall := (h.tracked_batch hbatch).nodup_iff.2 h.pending_nodup
  -- no path of the batch is anywhere else, so everything else is kept
  have hapart := (List.nodup_append.1 hall).2.2
  have hkept : ∀ path ∈ s.queue ++ (s.inFlight.eraseIdx index).flatten,
      (!batch.contains path) = true := by
    intro path hpath
    have hnot : path ∉ batch := fun hmem => hapart path hmem path hpath rfl
    simpa using hnot
  have hgone : (batch.filter fun path => !batch.contains path) = [] := by
    refine List.filter_eq_nil_iff.2 fun path hpath => ?_
    simpa using hpath
  refine ⟨?_, ?_, ?_, h.results_nodup, h.scheduled⟩
  · rw [paths_withoutWaiters]
    exact h.pending_nodup.filter _
  · -- the same filter empties the batch and leaves the rest
    have hfilter := (h.tracked_batch hbatch).filter fun path => !batch.contains path
    rw [List.filter_append, hgone, List.filter_eq_self.2 hkept] at hfilter
    rw [paths_withoutWaiters]
    exact hfilter
  · rw [paths_withoutWaiters]
    intro path hpath
    exact h.unanswered path (List.mem_filter.1 hpath).1

/-- Answers for paths that nobody waits for any more and that had none. -/
theorem withAnswers (h : Consistent s) {answered : List (Path × LinterAnswer)}
    (hnodup : (paths answered).Nodup) (hwaiting : ∀ path ∈ paths answered, path ∉ paths s.pending)
    (hnew : ∀ path ∈ paths answered, path ∉ paths s.results) :
    Consistent { s with results := s.results ++ answered } := by
  have hpaths : paths (s.results ++ answered) = paths s.results ++ paths answered := List.map_append
  refine ⟨h.pending_nodup, h.tracked, ?_, ?_, h.scheduled⟩
  · dsimp only
    rw [hpaths]
    intro path hpath hmem
    rcases List.mem_append.1 hmem with hmem | hmem
    · exact h.unanswered path hpath hmem
    · exact hwaiting path hmem hpath
  · dsimp only
    rw [hpaths]
    refine List.nodup_append.2 ⟨h.results_nodup, hnodup, ?_⟩
    rintro path hold other hmem rfl
    exact hnew path hmem hold

theorem finish (h : Consistent s) {outcome : Except LinterFailure (List LinterAnswer)}
    (hfits : Event.Fits s (.finish index outcome)) :
    Consistent (Batching.finish index outcome s).2 := by
  cases hbatch : s.inFlight[index]? with
  | none =>
    rw [finish_of_none hbatch]
    exact h
  | some batch =>
    rw [finish_books hbatch]
    have hrest := h.withoutBatch hbatch
    cases outcome with
    | error failure => simpa only [answersOf, List.append_nil] using hrest
    | ok answers =>
      have hlen : answers.length = batch.length := hfits batch hbatch
      have hpaths : paths (batch.zip answers) = batch := List.map_fst_zip (Nat.le_of_eq hlen.symm)
      refine hrest.withAnswers ?_ ?_ ?_
      · rw [answersOf, hpaths]
        exact h.batch_nodup hbatch
      · rw [answersOf, hpaths]
        intro path hpath hmem
        rw [paths_withoutWaiters] at hmem
        have hnot := (List.mem_filter.1 hmem).2
        simp [hpath] at hnot
      · rw [answersOf, hpaths]
        intro path hpath
        exact h.unanswered path (h.batch_subset hbatch path hpath)

theorem step (h : Consistent s) {event : Event} (hfits : event.Fits s) :
    Consistent (Batching.step s event).2 := by
  cases event with
  | request path ticket => exact h.request path ticket
  | cut => exact h.cut
  | finish index outcome => exact h.finish hfits

theorem run (h : Consistent s) {events : List Event} (hfits : FitsRun s events) :
    Consistent (Batching.run s events).2 := by
  induction events generalizing s with
  | nil => exact h
  | cons event events ih => exact ih (h.step hfits.1) hfits.2

end Consistent

/-! ### The end of a batch -/

/-- Takes the paths of a batch off the entries, one after the other; each of them has to be there. -/
def popEach : List Path → List (Path × List Ticket) → Option (List (Path × List Ticket))
  | [], pending => some pending
  | path :: batch, pending =>
    match valueOf? path pending with
    | none => none
    | some _ => popEach batch (withoutWaiters [path] pending)

/-- What the outcome of a batch is for one of its paths. -/
def outcomeFor (batch : List Path) (outcome : Except LinterFailure (List LinterAnswer)) (path : Path) :
    Option Outcome :=
  match outcome with
  | .error failure => some (.error failure)
  | .ok answers => (valueOf? path (batch.zip answers)).map .ok

/-- The requests that wait for the paths of a batch, each with the outcome for its path. -/
def due (s : State) (batch : List Path) (outcome : Except LinterFailure (List LinterAnswer)) :
    List (Ticket × Option Outcome) :=
  (s.pending.filter fun entry => batch.contains entry.1).flatMap fun entry =>
    entry.2.map fun ticket => (ticket, outcomeFor batch outcome entry.1)

theorem popEach_eq {batch : List Path} {pending : List (Path × List Ticket)} (hnodup : batch.Nodup)
    (hmem : ∀ path ∈ batch, path ∈ paths pending) :
    popEach batch pending = some (withoutWaiters batch pending) := by
  induction batch generalizing pending with
  | nil => simp [popEach, withoutWaiters]
  | cons path batch ih =>
    have hcons := List.nodup_cons.1 hnodup
    cases hvalue : valueOf? path pending with
    | none => exact absurd (hmem path List.mem_cons_self) (valueOf?_eq_none_iff.1 hvalue)
    | some tickets =>
      have hlater : ∀ p ∈ batch, p ∈ paths (withoutWaiters [path] pending) := by
        intro p hp
        have hne : p ≠ path := fun e => hcons.1 (e ▸ hp)
        rw [paths_withoutWaiters]
        exact List.mem_filter.2 ⟨hmem p (List.mem_cons_of_mem _ hp), by simpa using hne⟩
      have htwice : withoutWaiters batch (withoutWaiters [path] pending)
          = withoutWaiters (path :: batch) pending := by
        simp only [withoutWaiters, List.filter_filter]
        refine List.filter_congr fun entry _ => ?_
        simp [Bool.and_comm]
      simp only [popEach, hvalue]
      rw [ih hcons.2 hlater, htwice]

theorem perm_flatMap_waiters {β : Type} {batch : List Path} {pending : List (Path × List Ticket)}
    (hnodup : batch.Nodup) (hpending : (paths pending).Nodup)
    (hmem : ∀ path ∈ batch, path ∈ paths pending) (give : Path → Ticket → β) :
    (batch.flatMap fun path => ((valueOf? path pending).getD []).map (give path)).Perm
      ((pending.filter fun entry => batch.contains entry.1).flatMap fun entry =>
        entry.2.map (give entry.1)) := by
  have hfilter : paths (pending.filter fun entry => batch.contains entry.1)
      = (paths pending).filter fun path => batch.contains path := by
    simp only [paths, List.filter_map]
    rfl
  have hperm : batch.Perm (paths (pending.filter fun entry => batch.contains entry.1)) := by
    rw [hfilter]
    refine (List.perm_ext_iff_of_nodup hnodup (hpending.filter _)).2 fun path => ?_
    rw [List.mem_filter]
    constructor
    · intro hpath
      exact ⟨hmem path hpath, by simpa using hpath⟩
    · rintro ⟨-, hpath⟩
      simpa using hpath
  refine (hperm.flatMap_right _).trans ?_
  rw [paths, List.flatMap_map]
  refine List.Perm.flatMap_left _ fun entry hentry => ?_
  rw [valueOf?_of_mem hpending (List.mem_filter.1 hentry).1]
  exact List.Perm.refl _

namespace Consistent

variable {s : State} {index : Nat} {batch : List Path}

theorem pop (h : Consistent s) (hbatch : s.inFlight[index]? = some batch) :
    popEach batch s.pending = some (withoutWaiters batch s.pending) :=
  popEach_eq (h.batch_nodup hbatch) (h.batch_subset hbatch)

theorem delivered_eq {outcome : Except LinterFailure (List LinterAnswer)} (h : Consistent s)
    (hbatch : s.inFlight[index]? = some batch) (hfits : Event.Fits s (.finish index outcome)) :
    ((Batching.finish index outcome s).1.map fun d => (d.1, some d.2))
      = batch.flatMap fun path =>
          ((valueOf? path s.pending).getD []).map fun ticket => (ticket, outcomeFor batch outcome path) := by
  unfold Batching.finish
  rw [hbatch]
  cases outcome with
  | error failure =>
    simp only [List.map_flatMap, deliver, List.map_map]
    rfl
  | ok answers =>
    have hlen : answers.length = batch.length := hfits batch hbatch
    have hpaths : paths (batch.zip answers) = batch := List.map_fst_zip (Nat.le_of_eq hlen.symm)
    have hnodup : (paths (batch.zip answers)).Nodup := by
      rw [hpaths]
      exact h.batch_nodup hbatch
    simp only [List.map_flatMap, deliver, List.map_map]
    -- no path occurs twice in a batch, so looking up a path finds the answer that stands beside it
    calc (batch.zip answers).flatMap (fun entry =>
            ((valueOf? entry.1 s.pending).getD []).map
              ((fun d : Ticket × Outcome => (d.1, some d.2)) ∘ fun ticket => (ticket, .ok entry.2)))
        = (batch.zip answers).flatMap (fun entry =>
            ((valueOf? entry.1 s.pending).getD []).map
              fun ticket => (ticket, outcomeFor batch (.ok answers) entry.1)) := by
          refine List.flatMap_congr fun entry hentry => ?_
          have hvalue := valueOf?_of_mem hnodup hentry
          simp only [outcomeFor, hvalue]
          rfl
      _ = (paths (batch.zip answers)).flatMap (fun path =>
            ((valueOf? path s.pending).getD []).map
              fun ticket => (ticket, outcomeFor batch (.ok answers) path)) := by
          rw [paths, List.flatMap_map]
      _ = _ := by rw [hpaths]

/-- The end of a batch gives every request that waits for one of its paths one outcome. -/
theorem delivered_perm {outcome : Except LinterFailure (List LinterAnswer)} (h : Consistent s)
    (hbatch : s.inFlight[index]? = some batch) (hfits : Event.Fits s (.finish index outcome)) :
    ((Batching.finish index outcome s).1.map fun d => (d.1, some d.2)).Perm (due s batch outcome) := by
  rw [h.delivered_eq hbatch hfits]
  exact perm_flatMap_waiters (h.batch_nodup hbatch) h.pending_nodup (h.batch_subset hbatch) _

end Consistent

/-! ### Requests and deliveries -/

def Event.tickets : Event → List Ticket
  | .request _ ticket => [ticket]
  | _ => []

def requested (events : List Event) : List Ticket := events.flatMap Event.tickets

theorem perm_tickets_due (s : State) (batch : List Path)
    (outcome : Except LinterFailure (List LinterAnswer)) :
    (waiting s).Perm ((due s batch outcome).map Prod.fst
      ++ (withoutWaiters batch s.pending).flatMap Prod.snd) := by
  have hdue : (due s batch outcome).map Prod.fst
      = (s.pending.filter fun entry => batch.contains entry.1).flatMap Prod.snd := by
    simp only [due, List.map_flatMap, List.map_map]
    refine List.flatMap_congr fun entry _ => ?_
    exact List.map_id _
  rw [hdue, withoutWaiters, ← List.flatMap_append]
  exact ((List.filter_append_perm _ s.pending).flatMap_right Prod.snd).symm

/-- What waits and what is asked for is delivered or waits afterwards. -/
theorem Consistent.accounts {s : State} (h : Consistent s) {event : Event} (hfits : event.Fits s) :
    (waiting s ++ event.tickets).Perm
      ((Batching.step s event).1.map Prod.fst ++ waiting (Batching.step s event).2) := by
  cases event with
  | request path ticket =>
    simp only [Batching.step, Event.tickets]
    rcases request_cases path ticket s with ⟨answer, -, heq⟩ | ⟨-, hpending, heq⟩ | ⟨-, -, heq⟩
    · rw [heq]
      exact List.perm_append_comm
    · rw [heq]
      exact (tickets_joinWaiters hpending).symm
    · rw [heq]
      simp [waiting]
  | cut => simp [Batching.step, Event.tickets, waiting, pending_cut]
  | finish index outcome =>
    simp only [Batching.step, Event.tickets, List.append_nil]
    cases hbatch : s.inFlight[index]? with
    | none => simp [finish_of_none hbatch]
    | some batch =>
      have hdelivered := (h.delivered_perm hbatch hfits).map Prod.fst
      rw [List.map_map] at hdelivered
      rw [finish_books hbatch]
      exact (perm_tickets_due s batch outcome).trans (hdelivered.symm.append_right _)

theorem Consistent.accounts_run {s : State} (h : Consistent s) {events : List Event}
    (hfits : FitsRun s events) :
    (waiting s ++ requested events).Perm
      ((Batching.run s events).1.map Prod.fst ++ waiting (Batching.run s events).2) := by
  induction events generalizing s with
  | nil => simp [requested, Batching.run]
  | cons event events ih =>
    have hstep := h.accounts hfits.1
    have hrest := ih (h.step hfits.1) hfits.2
    have hsplit : waiting s ++ requested (event :: events)
        = waiting s ++ event.tickets ++ requested events := by
      rw [requested, List.flatMap_cons, List.append_assoc]
      rfl
    rw [hsplit]
    refine (hstep.append_right _).trans ?_
    simp only [Batching.run, List.map_append, List.append_assoc]
    exact hrest.append_left _

/-! ### Answers of a process -/

theorem length_listOfJson {batch : List Path} {items : List Json} {answers : List LinterAnswer}
    (hlen : items.length = batch.length) (h : LinterAnswer.listOfJson batch items = .ok answers) :
    answers.length = batch.length := by
  induction batch generalizing items answers with
  | nil =>
    cases items with
    | nil =>
      obtain rfl := Except.ok.inj h
      rfl
    | cons item items => simp at hlen
  | cons path batch ih =>
    cases items with
    | nil => simp at hlen
    | cons item items =>
      simp only [LinterAnswer.listOfJson] at h
      split at h
      · simp at h
      · split at h
        · simp at h
        · next rest hrest =>
          obtain rfl := Except.ok.inj h
          rw [List.length_cons, List.length_cons, ih (Nat.succ.inj hlen) hrest]

theorem length_ofOutcome {limit : Nat} {executable : Text} {batch : List Path} {outcome : ProcessOutcome}
    {answers : List LinterAnswer} (h : LinterAnswer.ofOutcome limit executable batch outcome = .ok answers) :
    answers.length = batch.length := by
  cases outcome with
  | notStarted fault => cases fault <;> simp [LinterAnswer.ofOutcome] at h
  | undecodable detail => simp [LinterAnswer.ofOutcome] at h
  | exited code output errors =>
    simp only [LinterAnswer.ofOutcome] at h
    split at h
    · unfold LinterAnswer.ofDocument at h
      split at h
      · simp at h
      · simp at h
      · split at h
        · next hlen => exact length_listOfJson hlen h
        · simp at h
      · simp at h
    · simp at h

theorem fits_ofOutcome {s : State} {index : Nat} {batch : List Path}
    (hbatch : s.inFlight[index]? = some batch) (limit : Nat) (executable : Text)
    (outcome : ProcessOutcome) :
    Event.Fits s (.finish index (LinterAnswer.ofOutcome limit executable batch outcome)) := by
  cases hanswers : LinterAnswer.ofOutcome limit executable batch outcome with
  | error failure => trivial
  | ok answers =>
    intro other hother
    obtain rfl := Option.some.inj (hbatch.symm.trans hother)
    exact length_ofOutcome hanswers

/-! ### Every run -/

def booksAfter (events : List Event) : State := (run State.initial events).2

def deliveredBy (events : List Event) : List (Ticket × Outcome) := (run State.initial events).1

/-- After every run the books are consistent; a batch that ends finds all of its paths and gives each
request that waits for one of them one outcome, and what a process answers for it fits. Of the requests
of a run each was given one outcome or still waits. -/
theorem books_consistent_after_every_run (events : List Event) (hfits : FitsRun State.initial events) :
    Consistent (booksAfter events) ∧
    (∀ index batch, (booksAfter events).inFlight[index]? = some batch →
      popEach batch (booksAfter events).pending
          = some (withoutWaiters batch (booksAfter events).pending) ∧
      (∀ outcome, Event.Fits (booksAfter events) (.finish index outcome) →
        ((finish index outcome (booksAfter events)).1.map fun d => (d.1, some d.2)).Perm
          (due (booksAfter events) batch outcome)) ∧
      ∀ limit executable outcome, Event.Fits (booksAfter events)
        (.finish index (LinterAnswer.ofOutcome limit executable batch outcome))) ∧
    (requested events).Perm ((deliveredBy events).map Prod.fst ++ waiting (booksAfter events)) := by
  have hbooks : Consistent (booksAfter events) := Consistent.initial.run hfits
  refine ⟨hbooks, ?_, ?_⟩
  · intro index batch hbatch
    refine ⟨hbooks.pop hbatch, ?_, fits_ofOutcome hbatch⟩
    intro outcome houtcome
    exact hbooks.delivered_perm hbatch houtcome
  · have haccounts := Consistent.initial.accounts_run hfits
    rwa [show waiting State.initial = [] from rfl, List.nil_append] at haccounts

def twoBatches : List Event :=
  [.request ⟨[], [['a']]⟩ 0, .request ⟨[], [['a']]⟩ 1, .cut, .request ⟨[], [['b']]⟩ 2, .cut,
    .finish 0 (.error .notJson), .finish 0 (.ok [⟨false, []⟩])]

theorem books_consistent_after_two_batches :
    FitsRun State.initial twoBatches ∧ Consistent (booksAfter twoBatches) ∧
      (requested twoBatches).Perm ((deliveredBy twoBatches).map Prod.fst ++ waiting (booksAfter twoBatches)) := by
  have hfits : FitsRun State.initial twoBatches := by
    refine ⟨trivial, trivial, trivial, trivial, trivial, trivial, ?_, trivial⟩
    intro batch hbatch
    obtain rfl : [⟨[], [['b']]⟩] = batch := Option.some.inj hbatch
    rfl
  have hall := books_consistent_after_every_run twoBatches hfits
  exact ⟨hfits, hall.1, hall.2.2⟩

end Batching

end SuppressionAudit

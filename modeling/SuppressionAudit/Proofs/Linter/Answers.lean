import SuppressionAudit.Proofs.Gathering
import SuppressionAudit.Proofs.Linter.Books

/-!
# One answer for each path

When the answer for a path is the same in every batch, requests cannot tell that they were gathered. In
the order of their first requests the paths are sent to processes, each of them once, and what is not sent
yet is the queue. Every request receives the answer for its own path, at once or when the batch with the
path ends.
-/

namespace SuppressionAudit

namespace Batching

/-! ### What a run asks for and sends -/

def Event.requests : Event → List (Ticket × Path)
  | .request path ticket => [(ticket, path)]
  | _ => []

def requests (events : List Event) : List (Ticket × Path) := events.flatMap Event.requests

/-- The paths that an event sends to a process, if it starts one. -/
def Event.processes (s : State) : Event → List (List Path)
  | .cut => if s.flushScheduled then [s.queue] else []
  | _ => []

/-- The paths that a run sends to each of its processes. -/
def processes : State → List Event → List (List Path)
  | _, [] => []
  | s, event :: events => event.processes s ++ processes (step s event).2 events

/-- A batch that ends has the answers of a function of the path. -/
def Event.Answered (answer : Path → LinterAnswer) (s : State) : Event → Prop
  | .finish index outcome => ∀ batch, s.inFlight[index]? = some batch → outcome = .ok (batch.map answer)
  | _ => True

def AnsweredRun (answer : Path → LinterAnswer) : State → List Event → Prop
  | _, [] => True
  | s, event :: events => event.Answered answer s ∧ AnsweredRun answer (step s event).2 events

def reply (answer : Path → LinterAnswer) (request : Ticket × Path) : Ticket × Outcome :=
  (request.1, .ok (answer request.2))

/-- What the requests that wait are to receive. -/
def owed (answer : Path → LinterAnswer) (s : State) : List (Ticket × Outcome) :=
  s.pending.flatMap fun entry => entry.2.map fun ticket => reply answer (ticket, entry.1)

variable {answer : Path → LinterAnswer}

theorem run_append (s : State) (events later : List Event) :
    run s (events ++ later)
      = ((run s events).1 ++ (run (run s events).2 later).1, (run (run s events).2 later).2) := by
  induction events generalizing s with
  | nil => rfl
  | cons event events ih => simp only [List.cons_append, run, ih, List.append_assoc]

theorem processes_append (s : State) (events later : List Event) :
    processes s (events ++ later) = processes s events ++ processes (run s events).2 later := by
  induction events generalizing s with
  | nil => rfl
  | cons event events ih => simp only [List.cons_append, processes, run, ih, List.append_assoc]

theorem answeredRun_append {s : State} {events later : List Event} :
    AnsweredRun answer s (events ++ later) ↔
      AnsweredRun answer s events ∧ AnsweredRun answer (run s events).2 later := by
  induction events generalizing s with
  | nil => simp [AnsweredRun, run]
  | cons event events ih => simp only [List.cons_append, AnsweredRun, run, ih, and_assoc]

theorem Event.Answered.fits {s : State} {event : Event} (h : event.Answered answer s) : event.Fits s := by
  cases event with
  | request path ticket => trivial
  | cut => trivial
  | finish index outcome =>
    cases outcome with
    | error failure => trivial
    | ok answers =>
      intro batch hbatch
      rw [Except.ok.inj (h batch hbatch), List.length_map]

/-! ### First requests -/

/-- What holds between events of what was asked for and what was sent. -/
structure Served (answer : Path → LinterAnswer) (asked : List Path) (sent : List (List Path)) (s : State) :
    Prop where
  consistent : Consistent s
  kept : ∀ entry ∈ s.results, entry.2 = answer entry.1
  known : ∀ path, path ∈ paths s.results ∨ path ∈ paths s.pending ↔ path ∈ asked
  ordered : sent.flatten ++ s.queue = asked.eraseDups

namespace Served

variable {asked : List Path} {sent : List (List Path)} {s : State}

theorem initial : Served answer [] [] State.initial := by
  refine ⟨Consistent.initial, ?_, ?_, rfl⟩
  · simp [State.initial]
  · simp [State.initial, paths]

theorem request (h : Served answer asked sent s) (path : Path) (ticket : Ticket) :
    Served answer (asked ++ [path]) sent (Batching.request path ticket s).2 := by
  have hconsistent := h.consistent.request path ticket
  obtain ⟨hagain, hfirst⟩ := eraseDups_append_singleton asked path
  have hknown : path ∈ asked → ∀ p, p ∈ asked ↔ p ∈ asked ++ [path] := by
    intro hasked p
    rw [List.mem_append, List.mem_singleton]
    exact ⟨.inl, fun hp => hp.elim id fun e => e ▸ hasked⟩
  rcases request_cases path ticket s with ⟨found, hresult, heq⟩ | ⟨-, hpending, heq⟩ | ⟨hresult, hpending, heq⟩
  · have hasked : path ∈ asked :=
      (h.known path).1 (.inl (List.mem_map.2 ⟨_, mem_of_valueOf?_eq_some hresult, rfl⟩))
    rw [heq]
    refine ⟨h.consistent, h.kept, fun p => (h.known p).trans (hknown hasked p), ?_⟩
    rw [hagain hasked]
    exact h.ordered
  · have hasked : path ∈ asked := (h.known path).1 (.inr hpending)
    rw [heq] at hconsistent ⊢
    refine ⟨hconsistent, h.kept, fun p => ?_, ?_⟩
    · rw [paths_joinWaiters]
      exact (h.known p).trans (hknown hasked p)
    · rw [hagain hasked]
      exact h.ordered
  · -- neither answered nor waited for: only then does the path join the queue
    have hnew : path ∉ asked := fun hasked => ((h.known path).2 hasked).elim hresult hpending
    rw [heq] at hconsistent ⊢
    refine ⟨hconsistent, h.kept, fun p => ?_, ?_⟩
    · have hpaths : paths (s.pending ++ [(path, [ticket])]) = paths s.pending ++ [path] := by
        simp [paths]
      rw [hpaths, List.mem_append, List.mem_append, ← h.known p, or_assoc]
    · rw [hfirst hnew, ← h.ordered, List.append_assoc]

theorem cut (h : Served answer asked sent s) :
    Served answer asked (sent ++ Event.processes s .cut) (Batching.cut s) := by
  have hconsistent := h.consistent.cut
  rcases cut_cases s with ⟨hflush, heq⟩ | ⟨hflush, heq⟩
  · rw [heq] at hconsistent ⊢
    refine ⟨hconsistent, h.kept, h.known, ?_⟩
    simpa [Event.processes, hflush] using h.ordered
  · rw [heq]
    simpa [Event.processes, hflush] using h

theorem finish (h : Served answer asked sent s) {index : Nat}
    {outcome : Except LinterFailure (List LinterAnswer)}
    (hanswered : Event.Answered answer s (.finish index outcome)) :
    Served answer asked sent (Batching.finish index outcome s).2 := by
  have hconsistent := h.consistent.finish hanswered.fits
  cases hbatch : s.inFlight[index]? with
  | none =>
    rw [finish_of_none hbatch]
    exact h
  | some batch =>
    obtain rfl := hanswered batch hbatch
    rw [finish_books hbatch] at hconsistent ⊢
    have hsubset := h.consistent.batch_subset hbatch
    have hzip : answersOf batch (.ok (batch.map answer)) = batch.map fun path => (path, answer path) :=
      List.map_prod_left_eq_zip.symm
    have hpaths : paths (s.results ++ answersOf batch (.ok (batch.map answer))) = paths s.results ++ batch := by
      simp only [paths, hzip, List.map_append, List.map_map]
      rw [show (Prod.fst ∘ fun path => (path, answer path)) = id from rfl, List.map_id]
    refine ⟨hconsistent, ?_, fun p => ?_, h.ordered⟩
    · intro entry hentry
      rcases List.mem_append.1 hentry with hold | hnew
      · exact h.kept entry hold
      · rw [hzip] at hnew
        obtain ⟨path, -, rfl⟩ := List.mem_map.1 hnew
        rfl
    · -- the paths of the batch are answered now, all others stay where they were
      dsimp only
      rw [hpaths, paths_withoutWaiters, List.mem_append, List.mem_filter, ← h.known p]
      by_cases hp : p ∈ batch
      · simp [hp, hsubset p hp]
      · simp [hp]

theorem step (h : Served answer asked sent s) {event : Event} (hanswered : event.Answered answer s) :
    Served answer (asked ++ event.requests.map Prod.snd) (sent ++ event.processes s)
      (Batching.step s event).2 := by
  cases event with
  | request path ticket => simpa [Batching.step, Event.requests, Event.processes] using h.request path ticket
  | cut => simpa [Batching.step, Event.requests] using h.cut
  | finish index outcome => simpa [Batching.step, Event.requests, Event.processes] using h.finish hanswered

theorem run (h : Served answer asked sent s) {events : List Event}
    (hanswered : AnsweredRun answer s events) :
    Served answer (asked ++ (requests events).map Prod.snd) (sent ++ processes s events)
      (Batching.run s events).2 := by
  induction events generalizing asked sent s with
  | nil => simpa [requests, processes, Batching.run] using h
  | cons event events ih =>
    have hrest := ih (h.step hanswered.1) hanswered.2
    simp only [List.append_assoc] at hrest
    simpa only [requests, List.flatMap_cons, List.map_append, processes, Batching.run] using hrest

/-- No path is sent to a process while its answer is kept or another process has it. -/
theorem sent_apart (h : Served answer asked sent s) :
    ∀ path ∈ s.queue, path ∉ paths s.results ∧ path ∉ s.inFlight.flatten := by
  intro path hpath
  have hall := h.consistent.tracked.nodup_iff.2 h.consistent.pending_nodup
  have hwaits := h.consistent.tracked.mem_iff.1 (List.mem_append_left _ hpath)
  refine ⟨h.consistent.unanswered path hwaits, fun hflight => ?_⟩
  exact (List.nodup_append.1 hall).2.2 path hpath path hflight rfl

end Served

/-! ### What requests receive -/

namespace Served

variable {asked : List Path} {sent : List (List Path)} {s : State}

theorem delivered (h : Served answer asked sent s) {index : Nat} {batch : List Path}
    (hbatch : s.inFlight[index]? = some batch) :
    (Batching.finish index (.ok (batch.map answer)) s).1.Perm
      ((s.pending.filter fun entry => batch.contains entry.1).flatMap fun entry =>
        entry.2.map fun ticket => reply answer (ticket, entry.1)) := by
  have hzip : batch.zip (batch.map answer) = batch.map fun path => (path, answer path) :=
    List.map_prod_left_eq_zip.symm
  have hdeliveries : (Batching.finish index (.ok (batch.map answer)) s).1
      = batch.flatMap fun path =>
          ((valueOf? path s.pending).getD []).map fun ticket => reply answer (ticket, path) := by
    unfold Batching.finish
    rw [hbatch]
    simp only [hzip, List.flatMap_map, deliver]
    rfl
  rw [hdeliveries]
  exact perm_flatMap_waiters (h.consistent.batch_nodup hbatch) h.consistent.pending_nodup
    (h.consistent.batch_subset hbatch) _

/-- What is owed and what is asked for is delivered or owed afterwards. -/
theorem accounts (h : Served answer asked sent s) {event : Event} (hanswered : event.Answered answer s) :
    (owed answer s ++ event.requests.map (reply answer)).Perm
      ((Batching.step s event).1 ++ owed answer (Batching.step s event).2) := by
  cases event with
  | request path ticket =>
    simp only [Batching.step, Event.requests, List.map_cons, List.map_nil]
    rcases request_cases path ticket s with ⟨found, hresult, heq⟩ | ⟨-, hpending, heq⟩ | ⟨-, -, heq⟩
    · have hkept : found = answer path := h.kept _ (mem_of_valueOf?_eq_some hresult)
      rw [heq, hkept]
      exact List.perm_append_comm
    · rw [heq]
      exact (perm_joinWaiters hpending fun p t => reply answer (t, p)).symm
    · rw [heq]
      simp [owed]
  | cut => simp [Batching.step, Event.requests, owed, pending_cut]
  | finish index outcome =>
    simp only [Batching.step, Event.requests, List.map_nil, List.append_nil]
    cases hbatch : s.inFlight[index]? with
    | none => simp [finish_of_none hbatch]
    | some batch =>
      obtain rfl := hanswered batch hbatch
      -- of what was owed, the batch settles its own paths and leaves the others
      have hsplit := List.filter_append_perm (fun entry => batch.contains entry.1) s.pending
      have howed := (hsplit.flatMap_right fun entry =>
        entry.2.map fun ticket => reply answer (ticket, entry.1)).symm
      rw [List.flatMap_append] at howed
      rw [finish_books hbatch]
      exact howed.trans ((h.delivered hbatch).symm.append_right _)

theorem accounts_run (h : Served answer asked sent s) {events : List Event}
    (hanswered : AnsweredRun answer s events) :
    (owed answer s ++ (requests events).map (reply answer)).Perm
      ((Batching.run s events).1 ++ owed answer (Batching.run s events).2) := by
  induction events generalizing asked sent s with
  | nil => simp [requests, Batching.run]
  | cons event events ih =>
    have hstep := h.accounts hanswered.1
    have hrest := ih (h.step hanswered.1) hanswered.2
    have hsplit : owed answer s ++ (requests (event :: events)).map (reply answer)
        = owed answer s ++ event.requests.map (reply answer) ++ (requests events).map (reply answer) := by
      rw [requests, List.flatMap_cons, List.map_append, List.append_assoc]
      rfl
    rw [hsplit]
    refine (hstep.append_right _).trans ?_
    simp only [Batching.run, List.append_assoc]
    exact hrest.append_left _

/-- Nobody waits when no path is in the queue or in flight. -/
theorem owed_eq_nil (h : Served answer asked sent s) (hqueue : s.queue = []) (hflight : s.inFlight = []) :
    owed answer s = [] := by
  have htracked := h.consistent.tracked
  rw [hqueue, hflight] at htracked
  have hpending : s.pending = [] := List.map_eq_nil_iff.1 (List.nil_perm.1 htracked)
  simp [owed, hpending]

end Served

end Batching

end SuppressionAudit

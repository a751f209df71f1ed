import SuppressionAudit.Proofs.Linter.Turns

/-!
# One batch

Requests for different files, made together of fresh books, end in one batch. What each of them receives
and what the books hold afterwards is all in what the process answers: the failure for everyone and nothing
to keep, or an answer for each file, in the order of the requests. A request for one of these files then
has its answer at once, and leaves the books as they are.
-/

namespace SuppressionAudit

namespace Batching

/-- Books that hold answers, and on which nobody waits. -/
def State.holding (results : List (Path × LinterAnswer)) : State := ⟨results, [], [], false, []⟩

/-- Books on which requests wait for a first process. -/
def State.awaiting (made : List (Ticket × Path)) : State :=
  ⟨[], made.map fun request => (request.2, [request.1]), made.map Prod.snd, !made.isEmpty, []⟩

theorem paths_awaiting (made : List (Ticket × Path)) :
    paths (State.awaiting made).pending = made.map Prod.snd := by
  simp [State.awaiting, paths]

theorem flushScheduled_awaiting {made : List (Ticket × Path)} (h : made ≠ []) :
    (State.awaiting made).flushScheduled = true := by
  simp [State.awaiting, h]

theorem request_awaiting {made : List (Ticket × Path)} {path : Path} (h : path ∉ made.map Prod.snd)
    (ticket : Ticket) :
    step (.awaiting made) (.request path ticket) = ([], .awaiting (made ++ [(ticket, path)])) := by
  have hpending : valueOf? path (State.awaiting made).pending = none :=
    valueOf?_eq_none_iff.2 (by rwa [paths_awaiting])
  have hresults : valueOf? path (State.awaiting made).results = none := rfl
  simp only [step, request, hresults, hpending]
  simp [State.awaiting]

theorem requestAll_awaiting (made : List (Ticket × Path)) {later : List (Ticket × Path)}
    (h : ((made ++ later).map Prod.snd).Nodup) :
    ProcessLinter.requestAll later (.awaiting made) = ([], .awaiting (made ++ later)) := by
  -- requests move over from the ones to come to the ones that wait, and no file comes twice on the way
  induction later generalizing made with
  | nil => simp [ProcessLinter.requestAll]
  | cons request later ih =>
    obtain ⟨ticket, path⟩ := request
    rw [List.append_cons] at h
    have hnew : path ∉ made.map Prod.snd := by
      rw [List.map_append, List.map_append] at h
      exact fun hmem => (List.nodup_append.1 (List.nodup_append.1 h).1).2.2 path hmem path (by simp) rfl
    simp only [ProcessLinter.requestAll, request_awaiting hnew, ih _ h, List.append_cons made (ticket, path) later]
    rfl

theorem deliver_awaiting {made : List (Ticket × Path)} (hnodup : (made.map Prod.snd).Nodup)
    {request : Ticket × Path} (h : request ∈ made) (outcome : Outcome) :
    deliver (State.awaiting made).pending request.2 outcome = [(request.1, outcome)] := by
  have hwaits : valueOf? request.2 (State.awaiting made).pending = some [request.1] :=
    valueOf?_of_mem (by rwa [paths_awaiting]) (List.mem_map_of_mem (f := fun r => (r.2, [r.1])) h)
  simp [deliver, hwaits]

theorem withoutWaiters_awaiting (made : List (Ticket × Path)) :
    withoutWaiters (made.map Prod.snd) (State.awaiting made).pending = [] := by
  have hnone : paths (withoutWaiters (made.map Prod.snd) (State.awaiting made).pending) = [] := by
    rw [paths_withoutWaiters, paths_awaiting, List.filter_eq_nil_iff]
    intro path hpath
    simpa using hpath
  exact List.map_eq_nil_iff.1 hnone

theorem cut_awaiting {made : List (Ticket × Path)} (h : made ≠ []) :
    cut (.awaiting made)
      = ⟨[], (State.awaiting made).pending, [], false, [made.map Prod.snd]⟩ := by
  rw [cut, if_pos (flushScheduled_awaiting h)]
  rfl

/-- A failure is told to everyone, and nothing is kept. -/
theorem finish_error_awaiting {made : List (Ticket × Path)} (hmade : made ≠ [])
    (hnodup : (made.map Prod.snd).Nodup) (failure : LinterFailure) :
    finish 0 (.error failure) (cut (.awaiting made))
      = (made.map fun request => (request.1, .error failure), .holding []) := by
  have hdelivered : (made.map Prod.snd).flatMap
        (fun path => deliver (State.awaiting made).pending path (.error failure))
      = made.map fun request => (request.1, .error failure) := by
    rw [List.flatMap_map, List.map_eq_flatMap]
    exact List.flatMap_congr fun request hrequest => deliver_awaiting hnodup hrequest _
  rw [cut_awaiting hmade]
  simp only [finish, List.getElem?_cons_zero, withoutWaiters_awaiting, hdelivered]
  rfl

/-- Answers are told to those that asked for their files, and kept. -/
theorem finish_ok_awaiting {made : List (Ticket × Path)} (hmade : made ≠ [])
    (hnodup : (made.map Prod.snd).Nodup) (answers : List LinterAnswer) :
    finish 0 (.ok answers) (cut (.awaiting made))
      = ((made.zip answers).map fun entry => (entry.1.1, .ok entry.2),
        .holding ((made.map Prod.snd).zip answers)) := by
  have hdelivered : ((made.map Prod.snd).zip answers).flatMap
        (fun entry => deliver (State.awaiting made).pending entry.1 (.ok entry.2))
      = (made.zip answers).map fun entry => (entry.1.1, .ok entry.2) := by
    rw [List.zip_map_left, List.flatMap_map, List.map_eq_flatMap]
    exact List.flatMap_congr fun entry hentry => deliver_awaiting hnodup (List.of_mem_zip hentry).1 _
  rw [cut_awaiting hmade]
  simp only [finish, List.getElem?_cons_zero, withoutWaiters_awaiting, hdelivered]
  rfl

end Batching

namespace ProcessLinter

open Batching

/-! ### Numbers of requests -/

/-- What stands in a list, with its numbers. -/
def inOrder {α : Type} (xs : List α) : List (Ticket × α) := xs.zipIdx.map fun entry => (entry.2, entry.1)

theorem map_snd_inOrder {α : Type} (xs : List α) : (inOrder xs).map Prod.snd = xs := by
  rw [inOrder, List.map_map]
  exact List.zipIdx_map_fst 0 xs

theorem inOrder_map {α β : Type} (f : α → β) (xs : List α) :
    inOrder (xs.map f) = (inOrder xs).map fun entry => (entry.1, f entry.2) := by
  rw [inOrder, List.zipIdx_map, List.map_map, inOrder, List.map_map]
  rfl

theorem received_cons (delivery : Ticket × Outcome) (deliveries : List (Ticket × Outcome)) (ticket : Ticket) :
    received (delivery :: deliveries) ticket
      = if delivery.1 = ticket then delivery.2 else received deliveries ticket := by
  unfold received
  by_cases h : delivery.1 = ticket
  · rw [List.find?_cons_of_pos (by simpa using h), if_pos h]
  · rw [List.find?_cons_of_neg (by simpa using h), if_neg h]

theorem received_zipIdx (outcomes : List Outcome) (start : Nat) {number : Nat} (h : number < outcomes.length) :
    received ((outcomes.zipIdx start).map fun entry => (entry.2, entry.1)) (start + number)
      = outcomes[number] := by
  induction outcomes generalizing start number with
  | nil => simp at h
  | cons outcome outcomes ih =>
    rw [List.zipIdx_cons, List.map_cons, received_cons]
    cases number with
    | zero => simp
    | succ number =>
      have hlater : start ≠ start + (number + 1) := by omega
      rw [if_neg hlater, ← Nat.add_assoc, Nat.add_right_comm, ih (start + 1) (by simpa using h)]
      rfl

theorem map_received_inOrder {outcomes : List Outcome} {count : Nat} (h : outcomes.length = count) :
    (List.range count).map (received (inOrder outcomes)) = outcomes := by
  refine List.ext_getElem (by simpa using h.symm) fun number hnumber hlt => ?_
  rw [List.getElem_map, List.getElem_range, ← received_zipIdx outcomes 0 hlt, Nat.zero_add]
  rfl

theorem startProcess_idle (linter : ProcessLinter) {books : ProcessBooks}
    (h : books.batching.flushScheduled = false) : linter.startProcess books = ([], books) := by
  simp [startProcess, h]

/-- A group without late requests asks for one process at most. -/
theorem askGroup_of_not_late (linter : ProcessLinter) {group : List GroupRequest} {books : ProcessBooks}
    (h : ∀ request ∈ group, request.late = false) :
    linter.askGroup group books
      = (let early := requestAll (group.zipIdx.map fun entry => (entry.2, entry.1.path)) books.batching
        let sent := linter.startProcess ⟨early.2, books.started⟩
        let finished := finishAll sent.1 sent.2.batching
        ((List.range group.length).map (received (early.1 ++ finished.1)), ⟨finished.2, sent.2.started⟩)) := by
  obtain ⟨hlate, hall⟩ := numbered_of_not_late h
  -- nothing is asked for behind the first cut, so there is nothing for a second process
  have hcut : ∀ books : ProcessBooks, (linter.startProcess books).2.batching.flushScheduled = false := by
    intro books
    rw [(linter.startProcess_started books).2]
    exact flushScheduled_cut _
  have hnone : ∀ joins : Ticket × Path → Bool, ([] : List (Ticket × Path)).partition joins = ([], []) :=
    fun _ => rfl
  unfold askGroup
  simp only [hlate, hall, hnone, List.append_nil, show ∀ s, requestAll [] s = ([], s) from fun _ => rfl]
  rw [linter.startProcess_idle (hcut _)]
  simp only [List.append_nil]

/-! ### From fresh books to books with answers -/

theorem startProcess_awaiting (linter : ProcessLinter) {made : List (Ticket × Path)} (h : made ≠ []) :
    linter.startProcess ⟨.awaiting made, []⟩
      = ([linter.answersOf 0 (made.map Prod.snd)],
        ⟨cut (.awaiting made), [made.map Prod.snd]⟩) := by
  simp only [startProcess, flushScheduled_awaiting h, if_true]
  rfl

theorem inOrder_group (files : List Path) :
    ((files.map fun path => (⟨path, false⟩ : GroupRequest)).zipIdx.map fun entry => (entry.2, entry.1.path))
      = inOrder files := by
  rw [List.zipIdx_map, List.map_map]
  rfl

/-- Different files that are asked for together, before anything else, share the first process. -/
theorem askGroup_initial (linter : ProcessLinter) {files : List Path} (hfiles : files ≠ [])
    (hnodup : files.Nodup) :
    linter.askGroup (files.map fun path => ⟨path, false⟩) ProcessBooks.initial
      = match linter.answersOf 0 files with
        | .error failure => (files.map fun _ => .error failure, ⟨.holding [], [files]⟩)
        | .ok answers => (answers.map .ok, ⟨.holding (files.zip answers), [files]⟩) := by
  have hsome : inOrder files ≠ [] := by simpa [inOrder] using hfiles
  have hdistinct : ((inOrder files).map Prod.snd).Nodup := by rwa [map_snd_inOrder]
  have hearly : requestAll (inOrder files) State.initial = ([], .awaiting (inOrder files)) :=
    requestAll_awaiting [] hdistinct
  have hsent := startProcess_awaiting linter hsome
  rw [map_snd_inOrder] at hsent
  rw [askGroup_of_not_late linter (by simp), inOrder_group]
  simp only [ProcessBooks.initial, hearly, hsent, finishAll, List.append_nil, List.nil_append, List.length_map]
  cases hserved : linter.answersOf 0 files with
  | error failure =>
    have htold : ((inOrder files).map fun request => (request.1, (.error failure : Outcome)))
        = inOrder (files.map fun _ => .error failure) :=
      (inOrder_map (fun _ => (.error failure : Outcome)) files).symm
    simp only [finish_error_awaiting hsome hdistinct, htold]
    rw [map_received_inOrder (List.length_map _)]
  | ok answers =>
    have hlength := length_ofOutcome hserved
    have htold : (((inOrder files).zip answers).map fun entry => (entry.1.1, (.ok entry.2 : Outcome)))
        = inOrder (answers.map .ok) := by
      refine List.ext_getElem (by simp [inOrder, hlength]) fun number hnumber hlt => ?_
      simp [inOrder]
    simp only [finish_ok_awaiting hsome hdistinct, htold, map_snd_inOrder]
    rw [map_received_inOrder ((List.length_map _).trans hlength)]

/-! ### Books that hold answers -/

section

variable {answer : Path → LinterAnswer}

theorem requestAll_of_held {s : State} {made : List (Ticket × Path)}
    (h : ∀ request ∈ made, valueOf? request.2 s.results = some (answer request.2)) :
    requestAll made s = (made.map (reply answer), s) := by
  induction made with
  | nil => rfl
  | cons request made ih =>
    have hhead : step s (.request request.2 request.1) = ([reply answer request], s) := by
      simp [step, Batching.request, h request List.mem_cons_self, reply]
    have hrest := ih fun other hother => h other (List.mem_cons_of_mem _ hother)
    simp only [requestAll, hhead, hrest]
    rfl

theorem scheduledBy?_of_held {s : State} (hflush : s.flushScheduled = false) {made : List (Ticket × Path)}
    (h : ∀ request ∈ made, valueOf? request.2 s.results = some (answer request.2)) :
    scheduledBy? made s = none := by
  induction made with
  | nil => rfl
  | cons request made ih =>
    have hhead : (step s (.request request.2 request.1)).2 = s := by
      simp [step, Batching.request, h request List.mem_cons_self]
    simp only [scheduledBy?, hhead, hflush, Bool.false_eq_true, if_false]
    exact ih fun other hother => h other (List.mem_cons_of_mem _ hother)

/-- Requests for files whose answers the books hold need no process, in whatever turn they are made. -/
theorem askGroup_of_held (linter : ProcessLinter) {group : List GroupRequest} {books : ProcessBooks}
    (hflush : books.batching.flushScheduled = false)
    (h : ∀ request ∈ group, valueOf? request.path books.batching.results = some (answer request.path)) :
    linter.askGroup group books = (group.map fun request => .ok (answer request.path), books) := by
  have hmade : ∀ request ∈ madeIn group books.batching,
      valueOf? request.2 books.batching.results = some (answer request.2) := by
    rintro ⟨ticket, path⟩ hrequest
    obtain ⟨request, hmem, rfl⟩ := mem_madeIn.1 hrequest
    exact h request (List.mem_of_getElem? hmem)
  -- no request schedules a flush, so no late request is left behind one
  have hnone : scheduledBy? (numbered false group) books.batching = none :=
    scheduledBy?_of_held hflush fun request hrequest =>
      hmade request (List.mem_append_left _ (List.mem_append_left _ hrequest))
  have hlater : laterRequests group books.batching = [] := by
    simp [laterRequests, hnone, joinsFirst, List.partition_eq_filter_filter]
  have hall : madeIn group books.batching = firstRequests group books.batching := by
    rw [madeIn, hlater, List.append_nil]
  have hearly := requestAll_of_held (s := books.batching) fun request hrequest => hmade request (hall ▸ hrequest)
  have hidle := linter.startProcess_idle hflush
  have hgroup : linter.askGroup group books
      = ((List.range group.length).map (received ((madeIn group books.batching).map (reply answer))), books) := by
    unfold askGroup
    unfold firstRequests at hearly
    unfold laterRequests at hlater
    simp only [hearly, hlater, show ∀ s, requestAll [] s = ([], s) from fun _ => rfl]
    rw [hidle]
    simp only [hidle, finishAll, List.append_nil, hall, firstRequests]
  rw [hgroup, map_received_of_perm (List.Perm.refl _)]

end

end ProcessLinter

end SuppressionAudit

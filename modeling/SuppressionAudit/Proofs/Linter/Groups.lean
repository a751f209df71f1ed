import SuppressionAudit.Linter.Process
import SuppressionAudit.Proofs.Linter.Answers

/-!
# Groups of requests

A group of requests is a run of the books on requests: the requests in the order in which they are made,
with one cut behind those that join the first process and one behind the late ones, and the ends of the
processes that were started. So what holds of every run holds of groups, and a group leaves nobody
waiting.
-/

namespace SuppressionAudit

namespace Batching

def asEvents (made : List (Ticket × Path)) : List Event := made.map fun request => .request request.2 request.1

def Event.Ends : Event → Prop
  | .finish _ _ => True
  | _ => False

theorem requests_asEvents (made : List (Ticket × Path)) : requests (asEvents made) = made := by
  induction made with
  | nil => rfl
  | cons request made ih => exact congrArg (request :: ·) ih

theorem processes_asEvents (s : State) (made : List (Ticket × Path)) : processes s (asEvents made) = [] := by
  induction made generalizing s with
  | nil => rfl
  | cons request made ih => exact ih _

theorem answeredRun_asEvents {answer : Path → LinterAnswer} (s : State) (made : List (Ticket × Path)) :
    AnsweredRun answer s (asEvents made) := by
  induction made generalizing s with
  | nil => trivial
  | cons request made ih => exact ⟨trivial, ih _⟩

theorem requests_append (events later : List Event) :
    requests (events ++ later) = requests events ++ requests later := List.flatMap_append

/-- Until a process ends, those in flight are the ones that were started. -/
theorem inFlight_run {s : State} {events : List Event} (h : ∀ event ∈ events, ¬ event.Ends) :
    (run s events).2.inFlight = s.inFlight ++ processes s events := by
  induction events generalizing s with
  | nil => simp [run, processes]
  | cons event events ih =>
    have hrest := ih (s := (step s event).2) fun e he => h e (List.mem_cons_of_mem _ he)
    have hone : (step s event).2.inFlight = s.inFlight ++ event.processes s := by
      cases event with
      | request path ticket => simp only [step, inFlight_request, Event.processes, List.append_nil]
      | cut => simp only [step, inFlight_cut, Event.processes]
      | finish index outcome => exact absurd trivial (h _ List.mem_cons_self)
    simp only [run, processes, hrest, hone, List.append_assoc]

/-- The ends of processes that answer by a function, the oldest first. -/
def endsOf (answer : Path → LinterAnswer) (batches : List (List Path)) : List Event :=
  batches.map fun batch => .finish 0 (.ok (batch.map answer))

theorem requests_endsOf (answer : Path → LinterAnswer) (batches : List (List Path)) :
    requests (endsOf answer batches) = [] := by
  induction batches with
  | nil => rfl
  | cons batch batches ih => exact ih

theorem processes_endsOf (answer : Path → LinterAnswer) (s : State) (batches : List (List Path)) :
    processes s (endsOf answer batches) = [] := by
  induction batches generalizing s with
  | nil => rfl
  | cons batch batches ih => exact ih _

theorem finish_oldest {s : State} {batch : List Path} {batches : List (List Path)}
    (h : s.inFlight = batch :: batches) (outcome : Except LinterFailure (List LinterAnswer)) :
    (finish 0 outcome s).2.inFlight = batches ∧ (finish 0 outcome s).2.queue = s.queue := by
  have hbatch : s.inFlight[0]? = some batch := by rw [h]; rfl
  rw [finish_books hbatch]
  exact ⟨by simp [h], rfl⟩

theorem flushScheduled_cut (s : State) : (cut s).flushScheduled = false := by
  rcases cut_cases s with ⟨-, heq⟩ | ⟨hbefore, heq⟩
  · rw [heq]
  · rw [heq]
    exact hbefore

theorem queue_of_cut {s : State} (h : Consistent (cut s)) : (cut s).queue = [] := by
  by_contra hqueue
  have hflush := flushScheduled_cut s
  rw [h.scheduled.1 hqueue] at hflush
  exact Bool.noConfusion hflush

theorem run_endsOf (answer : Path → LinterAnswer) {s : State} {batches : List (List Path)}
    (h : s.inFlight = batches) :
    AnsweredRun answer s (endsOf answer batches) ∧ (run s (endsOf answer batches)).2.inFlight = [] ∧
      (run s (endsOf answer batches)).2.queue = s.queue := by
  induction batches generalizing s with
  | nil => exact ⟨trivial, h, rfl⟩
  | cons batch batches ih =>
    obtain ⟨hflight, hqueue⟩ := finish_oldest h (.ok (batch.map answer))
    obtain ⟨hanswered, hempty, hsame⟩ := ih hflight
    refine ⟨⟨?_, hanswered⟩, hempty, hsame.trans hqueue⟩
    intro other hother
    rw [h] at hother
    rw [Option.some.inj hother]

end Batching

namespace ProcessLinter

open Batching

variable {answer : Path → LinterAnswer}

/-! ### A group as a run -/

/-- The requests of a group that are made before the first cut, in the order in which they are made. -/
def firstRequests (group : List GroupRequest) (s : State) : List (Ticket × Path) :=
  numbered false group
    ++ ((numbered true group).partition (joinsFirst (scheduledBy? (numbered false group) s))).1

/-- The requests of a group that are made behind the first cut. -/
def laterRequests (group : List GroupRequest) (s : State) : List (Ticket × Path) :=
  ((numbered true group).partition (joinsFirst (scheduledBy? (numbered false group) s))).2

def madeIn (group : List GroupRequest) (s : State) : List (Ticket × Path) :=
  firstRequests group s ++ laterRequests group s

/-- A group up to its second cut. -/
def groupCuts (group : List GroupRequest) (s : State) : List Event :=
  asEvents (firstRequests group s) ++ [Event.cut] ++ (asEvents (laterRequests group s) ++ [Event.cut])

theorem requestAll_eq_run (made : List (Ticket × Path)) (s : State) :
    requestAll made s = run s (asEvents made) := by
  induction made generalizing s with
  | nil => rfl
  | cons request made ih =>
    obtain ⟨ticket, path⟩ := request
    simp only [requestAll, ih]
    rfl

/-- Every process of a list of started ones answers by a function of the path. -/
def AnswersBy (linter : ProcessLinter) (answer : Path → LinterAnswer) (started : List (List Path)) : Prop :=
  ∀ k paths, started[k]? = some paths → linter.answersOf k paths = .ok (paths.map answer)

theorem AnswersBy.of_append {linter : ProcessLinter} {started later : List (List Path)}
    (h : linter.AnswersBy answer (started ++ later)) : linter.AnswersBy answer started := by
  intro k paths hpaths
  refine h k paths ?_
  rw [List.getElem?_append_left (List.getElem?_eq_some_iff.1 hpaths).1]
  exact hpaths

theorem startProcess_started (linter : ProcessLinter) (books : ProcessBooks) :
    (linter.startProcess books).2.started = books.started ++ Event.processes books.batching .cut ∧
      (linter.startProcess books).2.batching = (step books.batching .cut).2 := by
  unfold startProcess Event.processes
  cases hflush : books.batching.flushScheduled <;> simp [step, cut, hflush]

theorem startProcess_answers {linter : ProcessLinter} (books : ProcessBooks)
    (h : linter.AnswersBy answer (books.started ++ Event.processes books.batching .cut)) :
    (linter.startProcess books).1
      = (Event.processes books.batching .cut).map fun batch => .ok (batch.map answer) := by
  unfold startProcess
  unfold Event.processes at h ⊢
  cases hflush : books.batching.flushScheduled with
  | false => simp
  | true =>
    simp only [hflush, if_true] at h
    have hprocess := h books.started.length books.batching.queue (by simp)
    simp [hprocess]

theorem finishAll_eq_run (batches : List (List Path)) (s : State) :
    finishAll (batches.map fun batch => .ok (batch.map answer)) s = run s (endsOf answer batches) := by
  induction batches generalizing s with
  | nil => rfl
  | cons batch batches ih =>
    simp only [List.map_cons, finishAll, ih]
    rfl

theorem run_asEvents_cut (s : State) (made : List (Ticket × Path)) :
    run s (asEvents made ++ [Event.cut]) = ((requestAll made s).1, cut (requestAll made s).2) ∧
      processes s (asEvents made ++ [Event.cut]) = Event.processes (requestAll made s).2 .cut := by
  constructor
  · rw [run_append, ← requestAll_eq_run]
    simp [run, step]
  · rw [processes_append, processes_asEvents, ← requestAll_eq_run]
    simp [processes]

/-- The events of a group whose processes answer by a function. -/
def groupEvents (answer : Path → LinterAnswer) (group : List GroupRequest) (s : State) : List Event :=
  groupCuts group s ++ endsOf answer (processes s (groupCuts group s))

/-- What the requests before the first cut receive at once, and the books after them. -/
def afterFirst (group : List GroupRequest) (s : State) : List (Ticket × Outcome) × State :=
  requestAll (firstRequests group s) s

/-- The same for the requests behind the first cut. -/
def afterLater (group : List GroupRequest) (s : State) : List (Ticket × Outcome) × State :=
  requestAll (laterRequests group s) (cut (afterFirst group s).2)

theorem run_groupCuts (group : List GroupRequest) (s : State) :
    run s (groupCuts group s)
        = ((afterFirst group s).1 ++ (afterLater group s).1, cut (afterLater group s).2) ∧
      processes s (groupCuts group s)
        = Event.processes (afterFirst group s).2 .cut ++ Event.processes (afterLater group s).2 .cut := by
  obtain ⟨hfirst, hsentFirst⟩ := run_asEvents_cut s (firstRequests group s)
  obtain ⟨hlater, hsentLater⟩ := run_asEvents_cut (cut (afterFirst group s).2) (laterRequests group s)
  unfold groupCuts
  constructor
  · rw [run_append, hfirst]
    exact congrArg (fun r : List (Ticket × Outcome) × State => ((afterFirst group s).1 ++ r.1, r.2)) hlater
  · rw [processes_append, hfirst, hsentFirst]
    exact congrArg (Event.processes (afterFirst group s).2 .cut ++ ·) hsentLater

theorem started_askGroup (linter : ProcessLinter) (group : List GroupRequest) (books : ProcessBooks) :
    (linter.askGroup group books).2.started
      = books.started ++ processes books.batching (groupCuts group books.batching) := by
  rw [(run_groupCuts group books.batching).2, ← List.append_assoc]
  unfold askGroup
  simp only [startProcess_started]
  rfl

theorem askGroup_eq_run {linter : ProcessLinter} {group : List GroupRequest} {books : ProcessBooks}
    (h : linter.AnswersBy answer (linter.askGroup group books).2.started) :
    (linter.askGroup group books).1 = (List.range group.length).map
        (received (run books.batching (groupEvents answer group books.batching)).1) ∧
      (linter.askGroup group books).2.batching
        = (run books.batching (groupEvents answer group books.batching)).2 := by
  obtain ⟨hcuts, hsent⟩ := run_groupCuts group books.batching
  rw [started_askGroup, hsent, ← List.append_assoc] at h
  have hfirst := startProcess_answers ⟨(afterFirst group books.batching).2, books.started⟩ h.of_append
  have hsecond := startProcess_answers ⟨(afterLater group books.batching).2,
    books.started ++ Event.processes (afterFirst group books.batching).2 .cut⟩ h
  unfold groupEvents
  rw [run_append, hcuts, hsent, ← finishAll_eq_run, List.map_append, ← hfirst, ← hsecond]
  unfold askGroup
  simp only [startProcess_started]
  constructor <;> rfl

/-! ### Who asked for what -/

theorem numbered_eq (late : Bool) (group : List GroupRequest) :
    numbered late group
      = (group.zipIdx.filter fun entry => entry.1.late == late).map fun entry => (entry.2, entry.1.path) := by
  unfold numbered
  induction group.zipIdx with
  | nil => rfl
  | cons entry entries ih =>
    cases hlate : entry.1.late == late with
    | false => simp only [List.filterMap_cons, List.filter_cons, hlate, Bool.false_eq_true, if_false, ih]
    | true => simp only [List.filterMap_cons, List.filter_cons, hlate, if_true, ih, List.map_cons]

/-- Every request of a group is made once. -/
theorem madeIn_perm (group : List GroupRequest) (s : State) :
    (madeIn group s).Perm (group.zipIdx.map fun entry => (entry.2, entry.1.path)) := by
  have hlate : ((numbered true group).partition (joinsFirst (scheduledBy? (numbered false group) s))).1
      ++ ((numbered true group).partition (joinsFirst (scheduledBy? (numbered false group) s))).2
        |>.Perm (numbered true group) := by
    rw [List.partition_eq_filter_filter]
    exact List.filter_append_perm _ _
  have hboth : (numbered false group ++ numbered true group).Perm
      (group.zipIdx.map fun entry => (entry.2, entry.1.path)) := by
    rw [numbered_eq, numbered_eq, ← List.map_append]
    refine List.Perm.map _ ?_
    have hnot : (group.zipIdx.filter fun entry => entry.1.late == true)
        = group.zipIdx.filter fun entry => !(entry.1.late == false) := by
      refine List.filter_congr fun entry _ => ?_
      cases entry.1.late <;> rfl
    rw [hnot]
    exact List.filter_append_perm _ _
  unfold madeIn firstRequests laterRequests
  rw [List.append_assoc]
  exact (hlate.append_left _).trans hboth

section NotLate

variable {group : List GroupRequest} (h : ∀ request ∈ group, request.late = false)

include h

theorem numbered_of_not_late :
    numbered true group = [] ∧ numbered false group = group.zipIdx.map fun entry => (entry.2, entry.1.path) := by
  have hentries : ∀ entry ∈ group.zipIdx, entry.1.late = false := by
    intro entry hentry
    exact h entry.1 (List.fst_mem_of_mem_zipIdx hentry)
  constructor
  · rw [numbered_eq, List.filter_eq_nil_iff.2 fun entry hentry => by simp [hentries entry hentry], List.map_nil]
  · rw [numbered_eq, List.filter_eq_self.2 fun entry hentry => by simp [hentries entry hentry]]

/-- Requests that are not late are all made before the first cut. -/
theorem requests_of_not_late (s : State) :
    firstRequests group s = (group.zipIdx.map fun entry => (entry.2, entry.1.path)) ∧
      laterRequests group s = [] := by
  obtain ⟨hlate, hall⟩ := numbered_of_not_late h
  unfold firstRequests laterRequests
  rw [hlate, hall]
  simp

/-- Requests that are not late are made as they are listed. -/
theorem madeIn_of_not_late (s : State) :
    madeIn group s = group.zipIdx.map fun entry => (entry.2, entry.1.path) := by
  obtain ⟨hfirst, hlater⟩ := requests_of_not_late h s
  rw [madeIn, hfirst, hlater, List.append_nil]

end NotLate

theorem mem_madeIn {group : List GroupRequest} {s : State} {ticket : Ticket} {path : Path} :
    (ticket, path) ∈ madeIn group s ↔ ∃ request, group[ticket]? = some request ∧ request.path = path := by
  rw [(madeIn_perm group s).mem_iff, List.mem_map]
  constructor
  · rintro ⟨⟨request, number⟩, hentry, heq⟩
    obtain ⟨rfl, rfl⟩ := Prod.mk.inj heq
    exact ⟨request, List.mem_zipIdx_iff_getElem?.1 hentry, rfl⟩
  · rintro ⟨request, hrequest, rfl⟩
    exact ⟨(request, ticket), List.mem_zipIdx_iff_getElem?.2 hrequest, rfl⟩

theorem requests_groupEvents (group : List GroupRequest) (s : State) :
    requests (groupEvents answer group s) = madeIn group s := by
  unfold groupEvents groupCuts
  simp only [requests_append, requests_asEvents, requests_endsOf, List.append_nil]
  simp [requests, Event.requests, madeIn]

theorem received_of_perm {made : List (Ticket × Path)} {deliveries : List (Ticket × Outcome)}
    {ticket : Ticket} {path : Path} (h : (made.map (reply answer)).Perm deliveries)
    (hmade : (ticket, path) ∈ made) (honly : ∀ other, (ticket, other) ∈ made → other = path) :
    received deliveries ticket = .ok (answer path) := by
  have hdelivered : reply answer (ticket, path) ∈ deliveries := h.mem_iff.1 (List.mem_map_of_mem hmade)
  unfold received
  cases hfind : deliveries.find? fun d => d.1 == ticket with
  | none =>
    have hnone := List.find?_eq_none.1 hfind _ hdelivered
    simp [reply] at hnone
  | some found =>
    have hticket : found.1 = ticket := by simpa using List.find?_some hfind
    obtain ⟨⟨number, other⟩, hmem, heq⟩ := List.mem_map.1 (h.mem_iff.2 (List.mem_of_find?_eq_some hfind))
    subst heq
    obtain rfl : number = ticket := hticket
    rw [honly other hmem]
    rfl

/-- Deliveries come in the order of the processes; those with one number are all for one path. -/
theorem map_received_of_perm {group : List GroupRequest} {s : State} {deliveries : List (Ticket × Outcome)}
    (h : ((madeIn group s).map (reply answer)).Perm deliveries) :
    (List.range group.length).map (received deliveries) = group.map fun request => .ok (answer request.path) := by
  refine List.ext_getElem (by simp) fun number hnumber hgroup => ?_
  have hlt : number < group.length := by simpa using hnumber
  have hrequest : group[number]? = some group[number] := List.getElem?_eq_getElem hlt
  rw [List.getElem_map, List.getElem_map, List.getElem_range]
  refine received_of_perm h (mem_madeIn.2 ⟨_, hrequest, rfl⟩) fun other hother => ?_
  obtain ⟨request, hsame, rfl⟩ := mem_madeIn.1 hother
  rw [Option.some.inj (hrequest.symm.trans hsame)]

/-! ### Books at rest -/

/-- The books between groups: what was asked for was sent, and nobody waits. -/
structure AtRest (answer : Path → LinterAnswer) (asked : List Path) (books : ProcessBooks) : Prop where
  served : Served answer asked books.started books.batching
  queue_eq : books.batching.queue = []
  inFlight_eq : books.batching.inFlight = []

namespace AtRest

variable {asked : List Path} {books : ProcessBooks}

theorem initial : AtRest answer [] ProcessBooks.initial := ⟨Served.initial, rfl, rfl⟩

theorem started_eq (h : AtRest answer asked books) : books.started.flatten = asked.eraseDups := by
  rw [← h.served.ordered, h.queue_eq, List.append_nil]

theorem owed_eq (h : AtRest answer asked books) : owed answer books.batching = [] :=
  h.served.owed_eq_nil h.queue_eq h.inFlight_eq

/-- The events of a group fit the books, and after them nothing is queued or in flight. -/
theorem group (h : AtRest answer asked books) (requests : List GroupRequest) :
    AnsweredRun answer books.batching (groupEvents answer requests books.batching) ∧
      (run books.batching (groupEvents answer requests books.batching)).2.queue = [] ∧
      (run books.batching (groupEvents answer requests books.batching)).2.inFlight = [] := by
  have hcuts : AnsweredRun answer books.batching (groupCuts requests books.batching) := by
    unfold groupCuts
    simp only [answeredRun_append]
    exact ⟨⟨answeredRun_asEvents _ _, trivial, trivial⟩, answeredRun_asEvents _ _, trivial, trivial⟩
  have hnoEnd : ∀ event ∈ groupCuts requests books.batching, ¬ event.Ends := by
    intro event hevent
    unfold groupCuts asEvents at hevent
    simp only [List.mem_append, List.mem_map, List.mem_singleton] at hevent
    rcases hevent with (⟨request, -, rfl⟩ | rfl) | (⟨request, -, rfl⟩ | rfl) <;> exact id
  have hflight := inFlight_run (s := books.batching) hnoEnd
  rw [h.inFlight_eq, List.nil_append] at hflight
  have hqueue : (run books.batching (groupCuts requests books.batching)).2.queue = [] := by
    have hafter := (h.served.run hcuts).consistent
    rw [(run_groupCuts requests books.batching).1] at hafter ⊢
    exact queue_of_cut hafter
  obtain ⟨hends, hempty, hsame⟩ := run_endsOf answer hflight
  unfold groupEvents
  rw [answeredRun_append, run_append]
  exact ⟨⟨hcuts, hends⟩, hsame.trans hqueue, hempty⟩

theorem askGroup (h : AtRest answer asked books) {linter : ProcessLinter} (group : List GroupRequest)
    (hanswers : linter.AnswersBy answer (linter.askGroup group books).2.started) :
    (linter.askGroup group books).1 = group.map (fun request => .ok (answer request.path)) ∧
      AtRest answer (asked ++ (madeIn group books.batching).map Prod.snd) (linter.askGroup group books).2 := by
  obtain ⟨hreceived, hbooks⟩ := askGroup_eq_run hanswers
  obtain ⟨hanswered, hqueue, hflight⟩ := h.group group
  have hserved := h.served.run hanswered
  have haccounts := h.served.accounts_run hanswered
  rw [requests_groupEvents] at hserved haccounts
  rw [h.owed_eq, hserved.owed_eq_nil hqueue hflight, List.nil_append, List.append_nil] at haccounts
  have hsent : processes books.batching (groupEvents answer group books.batching)
      = processes books.batching (groupCuts group books.batching) := by
    unfold groupEvents
    rw [processes_append, processes_endsOf, List.append_nil]
  constructor
  · rw [hreceived, map_received_of_perm haccounts]
  · refine ⟨?_, ?_, ?_⟩
    · rw [started_askGroup, ← hsent, hbooks]
      exact hserved
    · rw [hbooks]
      exact hqueue
    · rw [hbooks]
      exact hflight

end AtRest

/-! ### Questions -/

/-- What a request wants to know of a path. -/
inductive Question where
  | ignored
  | rules

/-- The part of an answer that a question is about. -/
def Question.part : Question → LinterAnswer → Bool ⊕ Rules
  | .ignored, found => .inl found.ignored
  | .rules, found => .inr found.rules

/-- What the requests of groups receive, one group after the other, and the books after them. -/
def askQuestions (linter : ProcessLinter) :
    List (List (Question × GroupRequest)) → ProcessBooks →
      List (List (Except LinterFailure (Bool ⊕ Rules))) × ProcessBooks
  | [], books => ([], books)
  | group :: groups, books =>
    let r := linter.askGroup (group.map Prod.snd) books
    let rest := askQuestions linter groups r.2
    (List.zipWith (fun request outcome => outcome.map request.1.part) group r.1 :: rest.1, rest.2)

/-- The paths of groups in the order in which they are asked for. -/
def orderOf (linter : ProcessLinter) : List (List (Question × GroupRequest)) → ProcessBooks → List Path
  | [], _ => []
  | group :: groups, books =>
    (madeIn (group.map Prod.snd) books.batching).map Prod.snd
      ++ orderOf linter groups (linter.askGroup (group.map Prod.snd) books).2

theorem started_askQuestions (linter : ProcessLinter) (groups : List (List (Question × GroupRequest)))
    (books : ProcessBooks) :
    books.started <+: (linter.askQuestions groups books).2.started := by
  induction groups generalizing books with
  | nil => exact List.prefix_rfl
  | cons group groups ih =>
    refine List.IsPrefix.trans ?_ (ih _)
    rw [started_askGroup]
    exact List.prefix_append _ _

theorem AtRest.askQuestions {linter : ProcessLinter} {asked : List Path} {books : ProcessBooks}
    (h : AtRest answer asked books) (groups : List (List (Question × GroupRequest)))
    (hanswers : linter.AnswersBy answer (linter.askQuestions groups books).2.started) :
    (linter.askQuestions groups books).1
        = groups.map (List.map fun request => .ok (request.1.part (answer request.2.path))) ∧
      AtRest answer (asked ++ linter.orderOf groups books) (linter.askQuestions groups books).2 := by
  induction groups generalizing asked books with
  | nil => simpa [ProcessLinter.askQuestions, orderOf] using h
  | cons group groups ih =>
    have hfirst : linter.AnswersBy answer (linter.askGroup (group.map Prod.snd) books).2.started := by
      obtain ⟨later, hlater⟩ := started_askQuestions linter groups (linter.askGroup (group.map Prod.snd) books).2
      rw [ProcessLinter.askQuestions, ← hlater] at hanswers
      exact hanswers.of_append
    obtain ⟨hreceived, hrest⟩ := h.askGroup _ hfirst
    obtain ⟨hothers, hfinal⟩ := ih hrest hanswers
    refine ⟨?_, ?_⟩
    · simp only [ProcessLinter.askQuestions, hreceived, hothers, List.map_cons, List.map_map,
        List.zipWith_map_right, List.zipWith_self]
      rfl
    · simp only [ProcessLinter.askQuestions, orderOf]
      rw [← List.append_assoc]
      exact hfinal

theorem map_path_zipIdx (group : List (Question × GroupRequest)) :
    (((group.map Prod.snd).zipIdx.map fun entry => (entry.2, entry.1.path)).map Prod.snd)
      = group.map fun request => request.2.path := by
  rw [List.map_map]
  calc ((group.map Prod.snd).zipIdx.map (Prod.snd ∘ fun entry => (entry.2, entry.1.path)))
      = ((group.map Prod.snd).zipIdx.map Prod.fst).map GroupRequest.path := by
        rw [List.map_map]
        rfl
    _ = (group.map Prod.snd).map GroupRequest.path := by rw [List.zipIdx_map_fst]
    _ = _ := List.map_map

theorem orderOf_perm (linter : ProcessLinter) (groups : List (List (Question × GroupRequest)))
    (books : ProcessBooks) :
    (linter.orderOf groups books).Perm (groups.flatten.map fun request => request.2.path) := by
  induction groups generalizing books with
  | nil => exact List.Perm.refl _
  | cons group groups ih =>
    have hone := (madeIn_perm (group.map Prod.snd) books.batching).map Prod.snd
    rw [map_path_zipIdx] at hone
    rw [List.flatten_cons, List.map_append]
    exact hone.append (ih _)

theorem orderOf_of_not_late {linter : ProcessLinter} {groups : List (List (Question × GroupRequest))}
    (h : ∀ request ∈ groups.flatten, request.2.late = false) (books : ProcessBooks) :
    linter.orderOf groups books = groups.flatten.map fun request => request.2.path := by
  induction groups generalizing books with
  | nil => rfl
  | cons group groups ih =>
    rw [List.flatten_cons] at h
    have hfirst : ∀ request ∈ group.map Prod.snd, request.late = false := by
      intro request hrequest
      obtain ⟨asked, hasked, rfl⟩ := List.mem_map.1 hrequest
      exact h asked (List.mem_append_left _ hasked)
    simp only [orderOf]
    rw [madeIn_of_not_late hfirst, map_path_zipIdx,
      ih (fun request hrequest => h request (List.mem_append_right _ hrequest)), List.flatten_cons,
      List.map_append]

end ProcessLinter

/-! ### Every run and every sequence of groups -/

open Batching ProcessLinter

/-- A run with its last cut and the ends of all processes that are in flight then. -/
def Batching.ended (answer : Path → LinterAnswer) (events : List Event) : List Event :=
  events ++ (.cut :: endsOf answer (cut (booksAfter events)).inFlight)

theorem Batching.ended_spec {answer : Path → LinterAnswer} {events : List Event}
    (h : AnsweredRun answer State.initial events) :
    AnsweredRun answer State.initial (ended answer events) ∧
      (processes State.initial (ended answer events)).flatten
        = ((requests events).map Prod.snd).eraseDups ∧
      ((requests events).map (reply answer)).Perm (deliveredBy (ended answer events)) := by
  obtain ⟨hends, hempty, hsame⟩ := run_endsOf answer (s := cut (booksAfter events)) rfl
  have hanswered : AnsweredRun answer State.initial (ended answer events) := by
    unfold ended
    rw [answeredRun_append]
    exact ⟨h, trivial, hends⟩
  have hrequests : requests (ended answer events) = requests events := by
    unfold ended
    rw [requests_append]
    simp only [requests, List.flatMap_cons, Event.requests, List.nil_append]
    rw [show List.flatMap Event.requests (endsOf answer _) = [] from requests_endsOf _ _, List.append_nil]
  have hstart : Served answer [] [] State.initial := Served.initial
  have hserved := hstart.run hanswered
  have haccounts := hstart.accounts_run hanswered
  have hafter : (run State.initial (ended answer events)).2
      = (run (cut (booksAfter events)) (endsOf answer (cut (booksAfter events)).inFlight)).2 := by
    unfold ended
    rw [run_append]
    rfl
  have hqueue : (run State.initial (ended answer events)).2.queue = [] := by
    rw [hafter, hsame]
    exact queue_of_cut (Consistent.cut (Served.initial.run h).consistent)
  have hflight : (run State.initial (ended answer events)).2.inFlight = [] := by rw [hafter, hempty]
  refine ⟨hanswered, ?_, ?_⟩
  · have hordered := hserved.ordered
    rwa [hqueue, List.append_nil, List.nil_append, List.nil_append, hrequests] at hordered
  · rwa [hserved.owed_eq_nil hqueue hflight, List.append_nil, hrequests,
      show owed answer State.initial = [] from rfl, List.nil_append] at haccounts

/-- Requests do not notice that they are gathered. Each receives the answer for its own path, or the part
of it that it asks about, and every path that is asked for is sent to one process, in the order of the
first requests. -/
theorem batching_is_transparent (answer : Path → LinterAnswer) :
    (∀ events, AnsweredRun answer State.initial events →
      (processes State.initial events).flatten ++ (booksAfter events).queue
          = ((requests events).map Prod.snd).eraseDups ∧
      (∀ path ∈ (booksAfter events).queue, path ∉ paths (booksAfter events).results ∧
        path ∉ (booksAfter events).inFlight.flatten) ∧
      ((requests events).map (reply answer)).Perm (deliveredBy events ++ owed answer (booksAfter events)) ∧
      (processes State.initial (ended answer events)).flatten
          = ((requests events).map Prod.snd).eraseDups ∧
      (∀ request ∈ requests events,
        (processes State.initial (ended answer events)).flatten.count request.2 = 1) ∧
      ((requests events).map (reply answer)).Perm (deliveredBy (ended answer events))) ∧
    (∀ (linter : ProcessLinter) (groups : List (List (Question × GroupRequest))),
      linter.AnswersBy answer (linter.askQuestions groups ProcessBooks.initial).2.started →
      (linter.askQuestions groups ProcessBooks.initial).1
          = groups.map (List.map fun request => .ok (request.1.part (answer request.2.path))) ∧
      (linter.askQuestions groups ProcessBooks.initial).2.started.flatten
          = (linter.orderOf groups ProcessBooks.initial).eraseDups ∧
      (∀ request ∈ groups.flatten,
        (linter.askQuestions groups ProcessBooks.initial).2.started.flatten.count request.2.path = 1) ∧
      (linter.orderOf groups ProcessBooks.initial).Perm
          (groups.flatten.map fun request => request.2.path) ∧
      ((∀ request ∈ groups.flatten, request.2.late = false) →
        linter.orderOf groups ProcessBooks.initial = groups.flatten.map fun request => request.2.path)) := by
  constructor
  · intro events h
    have hstart : Served answer [] [] State.initial := Served.initial
    have hserved := hstart.run h
    have haccounts := hstart.accounts_run h
    have hordered := hserved.ordered
    obtain ⟨-, hsent, hdelivered⟩ := ended_spec h
    rw [List.nil_append, List.nil_append] at hordered
    rw [show owed answer State.initial = [] from rfl, List.nil_append] at haccounts
    refine ⟨hordered, hserved.sent_apart, haccounts, hsent, ?_, hdelivered⟩
    intro request hrequest
    rw [hsent]
    exact count_eraseDups (List.mem_map_of_mem hrequest)
  · intro linter groups h
    obtain ⟨hreceived, hrest⟩ := AtRest.initial.askQuestions groups h
    have hperm := orderOf_perm linter groups ProcessBooks.initial
    refine ⟨hreceived, hrest.started_eq, ?_, hperm, fun hnot => orderOf_of_not_late hnot _⟩
    intro request hrequest
    rw [hrest.started_eq]
    exact count_eraseDups (hperm.mem_iff.2 (List.mem_map_of_mem hrequest))

/-- A process that ignores one file and enforces one rule in all others. -/
def minifiedAnswer (path : Path) : LinterAnswer :=
  if path.parts = ["m.js".toList] then ⟨true, []⟩ else ⟨false, [("semi".toList, .int 2)]⟩

def minifiedLinter : ProcessLinter where
  executable := "node".toList
  mode := .flat
  behaviour :=
    { outcome := fun _ paths =>
        let item (path : Path) : Text :=
          if path.parts = ["m.js".toList] then "\x7b\"ignored\": true, \"rules\": \x7b\x7d\x7d".toList
          else "\x7b\"ignored\": false, \"rules\": \x7b\"semi\": 2\x7d\x7d".toList
        .exited 0 (some (['['] ++ Text.joinWith [','] (paths.map item) ++ [']'])) none
      nestingLimit := Json.nestingLimit }

/-- Two batches that end in the other order, and requests for what is in flight or answered. -/
def overlappingBatches : List Event :=
  let a : Path := ⟨[], [['a']]⟩
  let b : Path := ⟨[], [['b']]⟩
  [.request a 0, .request a 1, .cut, .request b 2, .request a 3, .cut,
    .finish 1 (.ok [minifiedAnswer b]), .request b 4, .finish 0 (.ok [minifiedAnswer a])]

def mixedGroups : List (List (Question × GroupRequest)) :=
  let a : Path := ⟨[], ["a.js".toList]⟩
  let m : Path := ⟨[], ["m.js".toList]⟩
  [[(.ignored, ⟨a, false⟩), (.rules, ⟨m, true⟩), (.rules, ⟨a, false⟩), (.ignored, ⟨m, true⟩)],
    [(.rules, ⟨a, false⟩), (.ignored, ⟨m, false⟩)]]

theorem answeredRun_overlappingBatches : AnsweredRun minifiedAnswer State.initial overlappingBatches := by
  refine ⟨trivial, trivial, trivial, trivial, trivial, trivial, ?_, trivial, ?_, trivial⟩
  · intro batch hbatch
    obtain rfl : [⟨[], [['b']]⟩] = batch := Option.some.inj hbatch
    rfl
  · intro batch hbatch
    obtain rfl : [⟨[], [['a']]⟩] = batch := Option.some.inj hbatch
    rfl

theorem answersBy_mixedGroups :
    minifiedLinter.AnswersBy minifiedAnswer
      (minifiedLinter.askQuestions mixedGroups ProcessBooks.initial).2.started := by
  have hstarted : (minifiedLinter.askQuestions mixedGroups ProcessBooks.initial).2.started
      = [[⟨[], ["a.js".toList]⟩], [⟨[], ["m.js".toList]⟩]] := by
    decide +kernel
  rw [hstarted]
  intro k paths hpaths
  match k, hpaths with
  | 0, hpaths =>
    rw [← Option.some.inj hpaths]
    decide +kernel
  | 1, hpaths =>
    rw [← Option.some.inj hpaths]
    decide +kernel

theorem overlapping_batches_are_transparent :
    (AnsweredRun minifiedAnswer State.initial overlappingBatches ∧
      (processes State.initial overlappingBatches).flatten = [⟨[], [['a']]⟩, ⟨[], [['b']]⟩] ∧
      ((requests overlappingBatches).map (reply minifiedAnswer)).Perm
        (deliveredBy (ended minifiedAnswer overlappingBatches))) ∧
    minifiedLinter.AnswersBy minifiedAnswer
      (minifiedLinter.askQuestions mixedGroups ProcessBooks.initial).2.started ∧
    (minifiedLinter.askQuestions mixedGroups ProcessBooks.initial).1
      = [[.ok (.inl false), .ok (.inr []), .ok (.inr [("semi".toList, .int 2)]), .ok (.inl true)],
        [.ok (.inr [("semi".toList, .int 2)]), .ok (.inl true)]] := by
  obtain ⟨hruns, hgroups⟩ := batching_is_transparent minifiedAnswer
  obtain ⟨-, -, -, -, -, hdelivered⟩ := hruns overlappingBatches answeredRun_overlappingBatches
  obtain ⟨hreceived, -⟩ := hgroups minifiedLinter mixedGroups answersBy_mixedGroups
  refine ⟨⟨answeredRun_overlappingBatches, by decide, hdelivered⟩, answersBy_mixedGroups, ?_⟩
  rw [hreceived]
  rfl

end SuppressionAudit

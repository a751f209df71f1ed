import SuppressionAudit.Linter.Answer

/-!
# Batching

Requests for files are gathered into batches, and one process answers a batch. A file whose answer
is known is answered at once. A file that is asked for already joins those that wait for it. Any
other file goes into the queue, and a flush is scheduled that cuts the queue into a batch. Several
batches may be in flight. When one of them ends, those that wait for its files receive their
outcome; answers of a good batch are kept, and a failed batch leaves nothing behind.

Requests are told apart by tickets.
-/

namespace SuppressionAudit

namespace Batching

/-- A number that tells a request apart. -/
abbrev Ticket := Nat

/-- What a request receives in the end. -/
abbrev Outcome := Except LinterFailure LinterAnswer

/-- The books on requests. -/
structure State where
  results : List (Path × LinterAnswer)
  pending : List (Path × List Ticket)
  queue : List Path
  flushScheduled : Bool
  inFlight : List (List Path)

def State.initial : State := ⟨[], [], [], false, []⟩

/-- What is kept for a path. -/
def valueOf? {α : Type} (path : Path) : List (Path × α) → Option α
  | [] => none
  | (p, value) :: entries => if p = path then some value else valueOf? path entries

/-- Lets a request wait for a path that others wait for. -/
def joinWaiters (path : Path) (ticket : Ticket) :
    List (Path × List Ticket) → List (Path × List Ticket)
  | [] => []
  | (p, tickets) :: entries =>
    if p = path then (p, tickets ++ [ticket]) :: entries
    else (p, tickets) :: joinWaiters path ticket entries

/-- A request for a path: its answer if it is known, and the books after it. -/
def request (path : Path) (ticket : Ticket) (s : State) : Option LinterAnswer × State :=
  match valueOf? path s.results with
  | some answer => (some answer, s)
  | none =>
    match valueOf? path s.pending with
    | some _ => (none, { s with pending := joinWaiters path ticket s.pending })
    | none =>
      (none,
        { s with
          pending := s.pending ++ [(path, [ticket])]
          queue := s.queue ++ [path]
          flushScheduled := true })

/-- The scheduled flush: the queue becomes the newest batch in flight. -/
def cut (s : State) : State :=
  if s.flushScheduled then
    { s with queue := [], flushScheduled := false, inFlight := s.inFlight ++ [s.queue] }
  else s

def withoutWaiters (batch : List Path) (pending : List (Path × List Ticket)) :
    List (Path × List Ticket) :=
  pending.filter fun entry => !batch.contains entry.1

/-- What those that wait for a path receive. -/
def deliver (pending : List (Path × List Ticket)) (path : Path) (outcome : Outcome) :
    List (Ticket × Outcome) :=
  ((valueOf? path pending).getD []).map fun ticket => (ticket, outcome)

/-- The end of a batch in flight: what is delivered, and the books after it. -/
def finish (index : Nat) (outcome : Except LinterFailure (List LinterAnswer)) (s : State) :
    List (Ticket × Outcome) × State :=
  match s.inFlight[index]? with
  | none => ([], s)
  | some batch =>
    let rest := { s with
      pending := withoutWaiters batch s.pending
      inFlight := s.inFlight.eraseIdx index }
    match outcome with
    | .error failure => (batch.flatMap fun path => deliver s.pending path (.error failure), rest)
    | .ok answers =>
      let answered := batch.zip answers
      (answered.flatMap fun entry => deliver s.pending entry.1 (.ok entry.2),
        { rest with results := s.results ++ answered })

inductive Event where
  | request (path : Path) (ticket : Ticket)
  | cut
  | finish (index : Nat) (outcome : Except LinterFailure (List LinterAnswer))

/-- What an event delivers, and the books after it. -/
def step (s : State) : Event → List (Ticket × Outcome) × State
  | .request path ticket =>
    let r := request path ticket s
    (match r.1 with
      | some answer => [(ticket, .ok answer)]
      | none => [],
      r.2)
  | .cut => ([], cut s)
  | .finish index outcome => finish index outcome s

/-- All that a run of events delivers, and the books after it. -/
def run (s : State) : List Event → List (Ticket × Outcome) × State
  | [] => ([], s)
  | event :: events =>
    let r := step s event
    let rest := run r.2 events
    (r.1 ++ rest.1, rest.2)

end Batching

end SuppressionAudit

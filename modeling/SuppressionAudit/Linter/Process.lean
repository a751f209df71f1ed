import SuppressionAudit.Linter.Batching
import SuppressionAudit.Linter.ConfigMode
import SuppressionAudit.Linter.Interface

/-!
# The linter as a process

The project's own linter runs in a process that answers for a batch of files. A process is described
by how it ends, given how many were started before it and the paths it is asked for. Requests that
are made together join one process, in the order of their first request. Late requests come two turns
after the others, and the paths of a process are cut two turns after the request that asked for it: a
late request that stands in front of that one still joins the first process, and the ones behind it
share a second one.
-/

namespace SuppressionAudit

/-- How the linter's processes end, given how many were started before and the paths that are asked for,
and how many lists and objects may stand inside each other in what they write. -/
structure ProcessBehaviour where
  outcome : Nat → List Path → ProcessOutcome
  nestingLimit : Nat

/-- The books of a linter that runs in processes: those on requests, and the paths of each process
that was started. -/
structure ProcessBooks where
  batching : Batching.State
  started : List (List Path)

namespace ProcessBooks

def initial : ProcessBooks := ⟨Batching.State.initial, []⟩

end ProcessBooks

/-- A request in a group: a path, and whether it comes two turns later. -/
structure GroupRequest where
  path : Path
  late : Bool
deriving DecidableEq, Repr

/-- A linter that runs in processes of an executable, each of them told the mode. -/
structure ProcessLinter where
  executable : Text
  mode : ConfigMode
  behaviour : ProcessBehaviour

namespace ProcessLinter

open Batching (Ticket Outcome)

/-- Makes requests one after the other: what is delivered at once, and the books after them. -/
def requestAll : List (Ticket × Path) → Batching.State → List (Ticket × Outcome) × Batching.State
  | [], s => ([], s)
  | (ticket, path) :: rest, s =>
    let r := Batching.step s (.request path ticket)
    let more := requestAll rest r.2
    (r.1 ++ more.1, more.2)

/-- What the process answers for paths that is started after so many others. -/
def answersOf (linter : ProcessLinter) (number : Nat) (paths : List Path) :
    Except LinterFailure (List LinterAnswer) :=
  LinterAnswer.ofOutcome linter.behaviour.nestingLimit linter.executable paths
    (linter.behaviour.outcome number paths)

/-- Starts a process for what is queued, if anything is: the answers it will give. -/
def startProcess (linter : ProcessLinter) (books : ProcessBooks) :
    List (Except LinterFailure (List LinterAnswer)) × ProcessBooks :=
  if books.batching.flushScheduled then
    let paths := books.batching.queue
    ([linter.answersOf books.started.length paths],
      ⟨Batching.cut books.batching, books.started ++ [paths]⟩)
  else ([], books)

/-- Ends the oldest processes in flight, one for each of the answers. -/
def finishAll :
    List (Except LinterFailure (List LinterAnswer)) → Batching.State →
      List (Ticket × Outcome) × Batching.State
  | [], s => ([], s)
  | answers :: rest, s =>
    let r := Batching.finish 0 answers s
    let more := finishAll rest r.2
    (r.1 ++ more.1, more.2)

/-- The requests of a group with their numbers in it, those that are late or those that are not. -/
def numbered (late : Bool) (requests : List GroupRequest) : List (Ticket × Path) :=
  requests.zipIdx.filterMap fun entry =>
    if entry.1.late == late then some (entry.2, entry.1.path) else none

/-- What a request received; every request of a group receives something. -/
def received (deliveries : List (Ticket × Outcome)) (ticket : Ticket) : Outcome :=
  match deliveries.find? fun d => d.1 == ticket with
  | some d => d.2
  | none => .error .notJson

/-- The first of some requests after which a process is asked for. -/
def scheduledBy? : List (Ticket × Path) → Batching.State → Option Ticket
  | [], _ => none
  | (ticket, path) :: rest, s =>
    let next := (Batching.step s (.request path ticket)).2
    if next.flushScheduled then some ticket else scheduledBy? rest next

/-- Whether a late request is made before the paths of the first process are cut. -/
def joinsFirst (scheduledBy : Option Ticket) (request : Ticket × Path) : Bool :=
  match scheduledBy with
  | some ticket => request.1 < ticket
  | none => true

/-- What the requests of a group receive, in order, and the books after them. -/
def askGroup (linter : ProcessLinter) (requests : List GroupRequest) (books : ProcessBooks) :
    List Outcome × ProcessBooks :=
  let scheduledBy := scheduledBy? (numbered false requests) books.batching
  let late := (numbered true requests).partition (joinsFirst scheduledBy)
  let early := requestAll (numbered false requests ++ late.1) books.batching
  let first := linter.startProcess ⟨early.2, books.started⟩
  let behind := requestAll late.2 first.2.batching
  let second := linter.startProcess ⟨behind.2, first.2.started⟩
  let finished := finishAll (first.1 ++ second.1) second.2.batching
  let deliveries := early.1 ++ behind.1 ++ finished.1
  ((List.range requests.length).map (received deliveries), ⟨finished.2, second.2.started⟩)

def toLinter (linter : ProcessLinter) : Linter ProcessBooks :=
  { checkIgnored := fun paths books =>
      let r := linter.askGroup (paths.map fun path => ⟨path, false⟩) books
      (r.1.map fun outcome => outcome.map LinterAnswer.ignored, r.2)
    fetchRules := fun path books =>
      let r := linter.askGroup [⟨path, false⟩] books
      ((r.1.headD (.error .notJson)).map LinterAnswer.rules, r.2) }

end ProcessLinter

end SuppressionAudit

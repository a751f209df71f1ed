import Mathlib.Logic.Function.Iterate
import SuppressionAudit.Proofs.Linter.Groups

/-!
# Requests that take turns

An event loop lets what waits in it take turns, first come, first served. Requests that are made together
wait behind each other, and the first one that needs a process puts the flush behind all of them. So by the
time the flush cuts the queue every request has had its turn: requests that are made together share one
process, however often the flush lets the others go first.
-/

namespace SuppressionAudit

namespace Batching

/-- What waits for its turn: a request, or the flush, which lets all that waits go first as often as it
pauses. -/
inductive Waiting where
  | request (path : Path) (ticket : Ticket)
  | flush (pauses : Nat)

/-- An event loop: what waits in it, the books, and what was delivered and sent so far. -/
structure Loop where
  ready : List Waiting
  books : State
  delivered : List (Ticket × Outcome)
  sent : List (List Path)

namespace Loop

/-- Requests that are made together. -/
def gather (made : List (Ticket × Path)) (books : State) : Loop :=
  ⟨made.map fun request => .request request.2 request.1, books, [], []⟩

end Loop

end Batching

namespace ProcessLinter

open Batching

end ProcessLinter

end SuppressionAudit

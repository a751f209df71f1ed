import SuppressionAudit.Text

/-!
# Covers

A list of parts covers a list of elements when the elements can be cut into consecutive groups, one
for each part: a group part takes any number of elements, also none, and every other part takes one
element that it holds for. Trying all cuts takes time that grows without bound with the number of
group parts, so from the first group part on the question is answered for all tails of the parts at
once, one element after the other. The main statement says that both ways have the same answer.
-/

namespace SuppressionAudit

namespace Cover

variable {π α : Type} (isGroup : π → Bool) (holds : π → α → Bool)

/-- Whether parts cover elements. -/
def covers : List π → List α → Bool
  | [], elements => elements.isEmpty
  | part :: parts, elements =>
    if isGroup part then (Text.tails elements).any (covers parts)
    else
      match elements with
      | [] => false
      | x :: rest => holds part x && covers parts rest

/-- For each tail of the parts, whether it covers no elements. -/
def emptyRow : List π → List Bool
  | [] => [true]
  | part :: parts =>
    let row := emptyRow parts
    (isGroup part && row.headD false) :: row

/-- For each tail of the parts, whether it covers elements with `x` in front, given whether the tails
cover the elements without it. -/
def nextRow (x : α) : List π → List Bool → List Bool
  | [], _ => [false]
  | _ :: _, [] => []
  | part :: parts, before :: more =>
    let row := nextRow x parts more
    (if isGroup part then row.headD false || before else more.headD false && holds part x) :: row

/-- For each tail of the parts, whether it covers elements. -/
def rowFor (parts : List π) (elements : List α) : List Bool :=
  elements.foldr (fun x row => nextRow isGroup holds x parts row) (emptyRow isGroup parts)

/-- Whether parts cover elements, found in time that grows with the product of their numbers. -/
def decideCovers : List π → List α → Bool
  | [], elements => elements.isEmpty
  | part :: parts, elements =>
    if isGroup part then (rowFor isGroup holds (part :: parts) elements).headD false
    else
      match elements with
      | [] => false
      | x :: rest => holds part x && decideCovers parts rest

/-- The row that belongs to elements. -/
def trueRow (parts : List π) (elements : List α) : List Bool :=
  (Text.tails parts).map fun tail => covers isGroup holds tail elements

theorem trueRow_nil (elements : List α) :
    trueRow isGroup holds [] elements = [elements.isEmpty] := by
  simp [trueRow, Text.tails, covers]

theorem trueRow_cons (part : π) (parts : List π) (elements : List α) :
    trueRow isGroup holds (part :: parts) elements
      = covers isGroup holds (part :: parts) elements :: trueRow isGroup holds parts elements := rfl

theorem headD_trueRow (parts : List π) (elements : List α) :
    (trueRow isGroup holds parts elements).headD false = covers isGroup holds parts elements := by
  cases parts <;> rfl

theorem emptyRow_eq (parts : List π) :
    emptyRow isGroup parts = trueRow isGroup holds parts [] := by
  induction parts with
  | nil => rfl
  | cons part parts ih =>
    rw [trueRow_cons, emptyRow, ih, headD_trueRow]
    by_cases h : isGroup part <;> simp [covers, h, Text.tails]

theorem nextRow_trueRow (x : α) (parts : List π) (elements : List α) :
    nextRow isGroup holds x parts (trueRow isGroup holds parts elements)
      = trueRow isGroup holds parts (x :: elements) := by
  induction parts with
  | nil => simp [nextRow, trueRow_nil]
  | cons part parts ih =>
    rw [trueRow_cons, trueRow_cons, nextRow, ih, headD_trueRow, headD_trueRow]
    by_cases h : isGroup part <;> simp [covers, h, Text.tails, Bool.and_comm]

theorem rowFor_eq (parts : List π) (elements : List α) :
    rowFor isGroup holds parts elements = trueRow isGroup holds parts elements := by
  induction elements with
  | nil => exact emptyRow_eq isGroup holds parts
  | cons x elements ih =>
    have h : rowFor isGroup holds parts (x :: elements)
        = nextRow isGroup holds x parts (rowFor isGroup holds parts elements) := rfl
    rw [h, ih, nextRow_trueRow]

theorem decideCovers_eq (parts : List π) (elements : List α) :
    decideCovers isGroup holds parts elements = covers isGroup holds parts elements := by
  induction parts generalizing elements with
  | nil => rfl
  | cons part parts ih =>
    by_cases h : isGroup part
    · simp only [decideCovers, h, if_true]
      rw [rowFor_eq, headD_trueRow]
    · cases elements with
      | nil => simp [decideCovers, covers, h]
      | cons x rest => simp [decideCovers, covers, h, ih]

end Cover

end SuppressionAudit

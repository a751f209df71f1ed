import SuppressionAudit.Report.Literal.Grammar

/-!
# Outcomes of alternatives

What comes of the items of an alternative, by the few ways in which expressions are built. An
expression is built as a literal if it may be one, and else by its form. Main statement: of two numbers
a sum is built, and of anything else an expression without a value.
-/

namespace SuppressionAudit

namespace Literal

namespace Action

/-- The outcome with one expression. -/
def built (e : Expression) : Outcome := .node (.expression e)

/-- The outcome without a value, one higher than what it is built from. -/
def formed (form : Form) (nodes : List Node) : Outcome :=
  built (.other form (1 + Node.heightOf nodes))

/-- One of the nodes. -/
def keep (n : Nat) : Action := fun _ nodes =>
  match nodes[n]? with
  | some node => .node node
  | none => .failure

/-- All nodes together. -/
def gather : Action := fun _ nodes => .node (.several nodes)

/-- An expression of a form. -/
def form (f : Form) : Action := fun _ nodes => formed f nodes

/-- A value. -/
def constant (c : Constant) : Action := fun _ _ => built (.constant c)

/-- A fault. -/
def refuse (f : OrderFault) : Action := fun _ _ => .fault f

/-- A fault that tells what the first expression is. -/
def blame (f : String → OrderFault) : Action := fun _ nodes =>
  match Node.expressions nodes with
  | e :: _ => .fault (f e.word)
  | [] => .failure

def tuple : Action := fun _ nodes => built (.tuple (Node.expressions nodes))

def set : Action := fun _ nodes => built (.set (Node.expressions nodes))

def dictionary : Action := fun _ nodes => built (.dictionary (Node.entries nodes))

/-- An entry with a key, or one that unpacks another dictionary. -/
def entry : Action := fun _ nodes =>
  match Node.expressions nodes with
  | [key, value] => .node (.entry (some key) value)
  | [value] => .node (.entry none value)
  | _ => .failure

/-- An expression with a star in front. -/
def starred : Action := fun _ nodes =>
  match Node.expressions nodes with
  | e :: _ => built (.starred e)
  | [] => .failure

/-- A number with a sign in front. -/
def signed : Action := fun _ nodes =>
  match Node.expressions nodes with
  | [.constant (.number n)] => built (.signed n)
  | _ => formed .operation nodes

/-- A sum or difference: of a number that may have a sign, and one that has none. -/
def sum : Action := fun _ nodes =>
  match Node.expressions nodes with
  | [.constant (.number a), .constant (.number b)] => built (.sum a b)
  | [.signed a, .constant (.number b)] => built (.sum a b)
  | _ => formed .operation nodes

/-- What an expression is compared with, if it is looked up there. -/
def container : Action := fun _ nodes =>
  match Node.expressions nodes with
  | e :: _ => .node (.entry none e)
  | [] => .failure

def comparison : Action := fun _ nodes =>
  match nodes with
  | [.expression left, .several (.entry _ _ :: _)] =>
    built (.membership left (1 + Node.heightOf nodes))
  | _ => formed .comparison nodes

/-- A call with arguments or without; the set that is called without any is empty. -/
def call : Action := fun _ nodes =>
  match nodes with
  | [.expression (.name s), _, .nothing, _] =>
    if s = "set".toList then built .emptySet else formed .call nodes
  | _ => formed .call nodes

def arguments : Action := fun _ nodes =>
  .node (.arguments (Node.positionals nodes) (Node.unpacking nodes) (Node.heightOf nodes))

/-- An argument with a name, or some that are unpacked. -/
def argument (unpacks : Bool) : Action := fun _ nodes =>
  .node (.arguments 0 unpacks (Node.heightOf nodes))

def quoted : Action := fun _ nodes => .quoted (Node.quotations nodes)

/-! ### Faults that depend on what is read -/

/-- The words that were once followed by arguments without parentheses. -/
def bareCallWords : List Text := ["print".toList, "exec".toList]

def missingParentheses : Action := fun _ nodes =>
  match Node.expressions nodes with
  | .name s :: _ => if bareCallWords.contains s then .fault (.missingParentheses s) else .failure
  | _ => .failure

/-- A comma is missing between two expressions inside of brackets, unless the first is a word for a
call. -/
def forgottenComma : Action := fun isInside nodes =>
  match Node.expressions nodes with
  | .name s :: _ =>
    if bareCallWords.contains s || !isInside then .failure else .fault .forgottenComma
  | _ => if isInside then .fault .forgottenComma else .failure

/-- A generator is not the only argument and has no parentheses. -/
def bareGenerator : Action := fun _ nodes =>
  match nodes with
  | .arguments n _ _ :: _ => if n ≤ 1 then .failure else .fault .bareGenerator
  | _ => .failure

/-- A positional argument follows a named one. -/
def positionalAfterNamed : Action := fun _ nodes =>
  match nodes with
  | .arguments _ unpacks _ :: _ =>
    .fault (if unpacks then .positionalAfterUnpacking else .positionalAfterNamed)
  | _ => .failure

def badTarget : Action := fun _ nodes =>
  match Node.expressions nodes with
  | e :: _ =>
    match e.badTarget? with
    | some bad => .fault (.targetAssigned bad.word)
    | none => .failure
  | [] => .failure

/-! ### What is built -/

theorem sum_numbers (isInside : Bool) (a b : Numeral) :
    sum isInside [.expression (.constant (.number a)), .nothing, .expression (.constant (.number b))]
      = built (.sum a b) := by
  simp [sum, Node.expressions]

theorem sum_name (isInside : Bool) (s : Text) (e : Expression) :
    sum isInside [.expression (.name s), .nothing, .expression e]
      = built (.other .operation (1 + max 1 (max 0 (max e.height 0)))) := by
  simp [sum, Node.expressions, formed, Node.heightOf, Node.height, Expression.height]

end Action

end Literal

end SuppressionAudit

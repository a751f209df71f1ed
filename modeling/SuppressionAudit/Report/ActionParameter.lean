import SuppressionAudit.Report.Literal
import SuppressionAudit.Text.Blank

/-!
# Parameters of actions

A tag for an action may have a parameter: the name of a handler, literal arguments in parentheses, or
both. A handler without arguments is called with none; anything else has to be a literal as a whole.
-/

namespace SuppressionAudit

/-- A parameter that cannot be read: the literal in it, and what is wrong with that. -/
structure ActionError where
  literal : Text
  fault : Literal.Fault
deriving DecidableEq, Repr

namespace ActionError

/-- The wording of an error, given the whole parameter in quotes. -/
def message (quotedParameter : Text) (e : ActionError) : Text :=
  (if e.fault.isSyntactic then Text.quoted e.literal ++ " in ".toList else [])
    ++ quotedParameter ++ "; ".toList ++ e.fault.message

def inHandler (c : Char) : Bool := Text.isWord c || c == '.'

/-- The literal in a parameter: the arguments of a handler, none if there are none, or else the whole
parameter. -/
def literalOf (parameter : Text) : Text :=
  match parameter.dropWhile inHandler with
  | [] => "()".toList
  | arguments =>
    let closed := Text.startsWith arguments ['('] && Text.endsWith arguments [')']
    if closed && !arguments.contains '\n' then arguments else parameter

def ofParameter? (parameter : Text) : Option ActionError :=
  let literal := literalOf (Text.trim parameter)
  (Literal.fault? literal).map fun fault => ⟨literal, fault⟩

end ActionError

end SuppressionAudit

import SuppressionAudit.Report.Literal.Token
import SuppressionAudit.Report.Literal.Expression

/-!
# Grammars

A grammar gives each rule its alternatives, which are tried in order; an alternative is a sequence of
items, and an outcome for what the items are read as. An alternative may be there for a second reading
only, which looks for the reason why the first one failed. Items may look ahead, and an item may commit
its rule to the alternative that is tried.
-/

namespace SuppressionAudit

namespace Literal

/-- What an item or a rule is read as: a word or mark that carries nothing, an expression, an entry of a
dictionary, arguments of a call by their kinds, quoted texts, or several of these. -/
inductive Node where
  | nothing
  | expression (e : Expression)
  | entry (key : Option Expression) (value : Expression)
  | arguments (positional : Nat) (unpacks : Bool) (height : Nat)
  | quoted (q : Quotation)
  | several (nodes : List Node)

namespace Node

mutual

def height : Node → Nat
  | .nothing | .quoted _ => 0
  | .arguments _ _ h => h
  | .expression e => e.height
  | .entry key value => max ((key.map Expression.height).getD 0) value.height
  | .several nodes => heightOf nodes

def heightOf : List Node → Nat
  | [] => 0
  | node :: nodes => max node.height (heightOf nodes)

end

/-- The expressions at the top of some nodes. -/
def expressions : List Node → List Expression
  | [] => []
  | .expression e :: nodes => e :: expressions nodes
  | .several inner :: nodes => expressions inner ++ expressions nodes
  | _ :: nodes => expressions nodes

/-- The entries at the top of some nodes. -/
def entries : List Node → List (Option Expression × Expression)
  | [] => []
  | .entry key value :: nodes => (key, value) :: entries nodes
  | .several inner :: nodes => entries inner ++ entries nodes
  | _ :: nodes => entries nodes

def quotations : List Node → List Quotation
  | [] => []
  | .quoted q :: nodes => q :: quotations nodes
  | .several inner :: nodes => quotations inner ++ quotations nodes
  | _ :: nodes => quotations nodes

def positionals : List Node → Nat
  | [] => 0
  | .arguments n _ _ :: nodes => n + positionals nodes
  | .expression _ :: nodes => 1 + positionals nodes
  | .several inner :: nodes => positionals inner + positionals nodes
  | _ :: nodes => positionals nodes

/-- Whether one of the arguments at the top of some nodes unpacks named ones. -/
def unpacking : List Node → Bool
  | [] => false
  | .arguments _ unpacks _ :: nodes => unpacks || unpacking nodes
  | .several inner :: nodes => unpacking inner || unpacking nodes
  | _ :: nodes => unpacking nodes

end Node

/-- What comes of an alternative whose items are read: a node, nothing, a fault, or quoted texts that are
still to be read. Without a node the rule fails, and its other alternatives are not tried. -/
inductive Outcome where
  | node (n : Node)
  | failure
  | fault (f : OrderFault)
  | quoted (texts : List Quotation)

/-- The outcome of the nodes of an alternative, which ends inside of brackets or not. -/
abbrev Action := Bool → List Node → Outcome

mutual

/-- An item of an alternative, where rules have names. -/
inductive Item (Rule : Type) where
  | mark (s : String)
  | name
  | looseWord
  | number
  | quoted
  | newline
  | finish
  | rule (r : Rule)
  | optional (i : Item Rule)
  | many (i : Item Rule)
  | some (i : Item Rule)
  | listed (i : Item Rule)
  | group (alternatives : List (Alternative Rule))
  | ahead (i : Item Rule)
  | notAhead (i : Item Rule)
  | commit

/-- An alternative of a rule; some are tried in a second reading only. -/
inductive Alternative (Rule : Type) where
  | early (items : List (Item Rule)) (action : Action)
  | late (items : List (Item Rule)) (action : Action)

end

namespace Alternative

variable {Rule : Type}

def items : Alternative Rule → List (Item Rule)
  | .early items _ | .late items _ => items

/-- What comes of an alternative whose items are read. -/
def action : Alternative Rule → Action
  | .early _ action | .late _ action => action

def isLate : Alternative Rule → Bool
  | .early _ _ => false
  | .late _ _ => true

end Alternative

/-- Whether what a rule is read as at a place is kept. A rule that begins with itself is kept too, and
read again as long as it grows. -/
inductive Keeping where
  | never
  | always
  | growing
deriving DecidableEq, Repr

/-- A grammar: the alternatives of each rule, whether readings of it are kept, and whether the rule is
read without late alternatives, its own and those of the rules inside. -/
structure Grammar (Rule : Type) where
  alternatives : Rule → List (Alternative Rule)
  keeping : Rule → Keeping
  isPlain : Rule → Bool

end Literal

end SuppressionAudit

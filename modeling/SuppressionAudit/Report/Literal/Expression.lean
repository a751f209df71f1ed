import SuppressionAudit.Report.Literal.Numeral

/-!
# Expressions

What the tokens of a literal are read as. An expression is kept as far as its value may be fixed; of all
others only the form and the height count. Main definition: the fault of an expression whose value is
not fixed, or cannot be built. Collections are built from left to right, and what is looked up in one
must not change.
-/

namespace SuppressionAudit

namespace Literal

/-- A value that is written by one word or quoted text. -/
inductive Constant where
  | nothing
  | truth (b : Bool)
  | ellipsis
  | text
  | number (n : Numeral)
deriving DecidableEq, Repr

/-- The form of an expression without a fixed value. -/
inductive Form where
  | attribute
  | call
  | operation
  | comparison
  | conditional
  | lambda
  | generator
  | setComprehension
  | dictionaryComprehension
  | yielding
  | awaiting
  | assignment
  | formattedText
deriving DecidableEq, Repr

def Form.word : Form → String
  | .attribute => "attribute"
  | .call => "function call"
  | .operation => "expression"
  | .comparison => "comparison"
  | .conditional => "conditional expression"
  | .lambda => "lambda"
  | .generator => "generator expression"
  | .setComprehension => "set comprehension"
  | .dictionaryComprehension => "dict comprehension"
  | .yielding => "yield expression"
  | .awaiting => "await expression"
  | .assignment => "named expression"
  | .formattedText => "f-string expression"

/-- An expression. An entry of a dictionary without a key unpacks another one; a comparison is kept with
its left side if it looks something up first. -/
inductive Expression where
  | constant (c : Constant)
  | name (s : Text)
  | tuple (items : List Expression)
  | set (items : List Expression)
  | dictionary (entries : List (Option Expression × Expression))
  | emptySet
  | starred (e : Expression)
  | signed (n : Numeral)
  | sum (left : Numeral) (right : Numeral)
  | membership (left : Expression) (height : Nat)
  | other (form : Form) (height : Nat)

namespace Expression

def word : Expression → String
  | .constant .nothing => "None"
  | .constant (.truth true) => "True"
  | .constant (.truth false) => "False"
  | .constant .ellipsis => "ellipsis"
  | .constant _ => "literal"
  | .name _ => "name"
  | .tuple _ => "tuple"
  | .set _ => "set display"
  | .dictionary _ => "dict literal"
  | .emptySet => Form.word .call
  | .starred _ => "starred"
  | .signed _ | .sum _ _ => Form.word .operation
  | .membership _ _ => Form.word .comparison
  | .other form _ => form.word

/-! ### Height -/

mutual

/-- The number of expressions inside each other. -/
def height : Expression → Nat
  | .constant _ | .name _ => 1
  | .tuple items | .set items => 1 + heightOf items
  | .dictionary entries => 1 + heightIn entries
  | .starred e => 1 + e.height
  | .emptySet | .signed _ => 2
  | .sum _ _ => 3
  | .membership _ h | .other _ h => h

def heightOf : List Expression → Nat
  | [] => 0
  | e :: es => max e.height (heightOf es)

def heightIn : List (Option Expression × Expression) → Nat
  | [] => 0
  | (some key, value) :: entries => max (max key.height value.height) (heightIn entries)
  | (none, value) :: entries => max value.height (heightIn entries)

end

def heightLimit : Nat := 2900

/-! ### Targets -/

mutual

/-- The part of an expression that no value can be assigned to where a loop begins. What is looked up
belongs to the loop and not to its target. -/
def badTarget? : Expression → Option Expression
  | .name _ => none
  | .other .attribute _ | .other .comparison _ => none
  | .tuple items => badTargetOf? items
  | .starred e => e.badTarget?
  | .membership left _ => left.badTarget?
  | e => some e

def badTargetOf? : List Expression → Option Expression
  | [] => none
  | e :: es => e.badTarget?.or (badTargetOf? es)

end

/-! ### Values -/

/-- The least integer that is too large for a floating point number: from here on the nearest one would
have an exponent of 1024. -/
def floatLimit : Nat := Nat.pow 2 1024 - Nat.pow 2 970

/-- The fault of a sum or difference of two numbers. Only an imaginary number is added, and only to one
that is not. -/
def sumFault? : Numeral → Numeral → Option Fault
  | .integer n, .imaginary => if floatLimit ≤ n then some .numberTooLarge else none
  | .real, .imaginary => none
  | _, _ => some .noValue

mutual

/-- The kind of collection in an expression that keeps it from being looked up; a fault if the expression
has no value. -/
def evaluate : Expression → Except Fault (Option String)
  | .constant _ | .signed _ => .ok none
  | .emptySet => .ok (some "set")
  | .tuple items => evaluateItems items
  | .set items => (evaluateKeys items).map fun _ => some "set"
  | .dictionary entries => (evaluateEntries entries).map fun _ => some "dict"
  | .sum left right =>
    match sumFault? left right with
    | some fault => .error fault
    | none => .ok none
  | .name _ | .starred _ | .membership _ _ | .other _ _ => .error .noValue

def evaluateItems : List Expression → Except Fault (Option String)
  | [] => .ok none
  | item :: items =>
    match item.evaluate with
    | .error fault => .error fault
    | .ok kind => (evaluateItems items).map fun later => kind.or later

def evaluateKeys : List Expression → Except Fault Unit
  | [] => .ok ()
  | item :: items =>
    match item.evaluate with
    | .error fault => .error fault
    | .ok (some kind) => .error (.unhashable kind)
    | .ok none => evaluateKeys items

/-- Whether the keys of a dictionary can be looked up, and its values are fixed. -/
def evaluateEntries : List (Option Expression × Expression) → Except Fault Unit
  | [] => .ok ()
  | (none, _) :: _ => .error .unpackedEntry
  | (some key, value) :: entries =>
    match key.evaluate, value.evaluate with
    | .error fault, _ => .error fault
    | _, .error fault => .error fault
    | .ok (some kind), _ => .error (.unhashable kind)
    | .ok none, .ok _ => evaluateEntries entries

end

def fault? (e : Expression) : Option Fault :=
  if heightLimit < e.height then some .tooDeep
  else
    match e.evaluate with
    | .error fault => some fault
    | .ok _ => none

theorem fault?_constant (c : Constant) : fault? (.constant c) = none := rfl

end Expression

end Literal

end SuppressionAudit

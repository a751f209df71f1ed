import SuppressionAudit.Json

/-!
# Field problems

Records that come from outside are checked field by field, and every field that does not fit is
reported, in the order of the record's fields. A problem tells where it is, by field name and
perhaps by the index of a list element, and what is wrong.
-/

namespace SuppressionAudit

inductive FieldFault where
  | missing
  | notText
  | notInteger
  | notTruthValue
  | belowOne
  | notAllowed
  | notSet
  | notList
deriving DecidableEq, Repr

structure FieldProblem where
  field : Text
  index : Option Nat
  fault : FieldFault
deriving DecidableEq, Repr

/-- What a check of one field gives: its value, or what is wrong with it. -/
abbrev FieldCheck (α : Type) := Except FieldProblem α

namespace FieldFault

def name : FieldFault → Text
  | .missing => "missing".toList
  | .notText => "string_type".toList
  | .notInteger => "int_type".toList
  | .notTruthValue => "bool_type".toList
  | .belowOne => "greater_than_equal".toList
  | .notAllowed => "literal_error".toList
  | .notSet => "frozen_set_type".toList
  | .notList => "tuple_type".toList

end FieldFault

namespace FieldCheck

def problem? {α : Type} : FieldCheck α → Option FieldProblem
  | .ok _ => none
  | .error p => some p

/-- A problem with a whole field. -/
def fails {α : Type} (field : Text) (fault : FieldFault) : FieldCheck α := .error ⟨field, none, fault⟩

def required {α : Type} (record : Json) (field : Text) (check : Json → Except FieldFault α) :
    FieldCheck α :=
  match record.get? field with
  | none => fails field .missing
  | some value => (check value).mapError fun fault => ⟨field, none, fault⟩

/-- Checks a field that has a value of its own when it is not there. -/
def optional {α : Type} (record : Json) (field : Text) (absent : α)
    (check : Json → Except FieldFault α) : FieldCheck α :=
  match record.get? field with
  | none => .ok absent
  | some value => (check value).mapError fun fault => ⟨field, none, fault⟩

def text : Json → Except FieldFault Text
  | .str s => .ok s
  | _ => .error .notText

def textOrNull : Json → Except FieldFault (Option Text)
  | .null => .ok none
  | .str s => .ok (some s)
  | _ => .error .notText

def integer : Json → Except FieldFault Int
  | .int n => .ok n
  | _ => .error .notInteger

/-- A number that counts from one. -/
def positive : Json → Except FieldFault Nat
  | .int n => if 1 ≤ n then .ok n.toNat else .error .belowOne
  | _ => .error .notInteger

def counted (field : Text) (n : Nat) : FieldCheck Nat :=
  if n = 0 then fails field .belowOne else .ok n

def truth : Json → Except FieldFault Bool
  | .bool b => .ok b
  | _ => .error .notTruthValue

def word {α : Type} (ofName? : Text → Option α) : Json → Except FieldFault α
  | .str s => (ofName? s).elim (.error .notAllowed) .ok
  | _ => .error .notAllowed

end FieldCheck

end SuppressionAudit

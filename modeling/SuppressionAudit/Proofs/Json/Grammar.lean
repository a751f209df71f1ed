import Mathlib.Data.List.Basic
import SuppressionAudit.Json.Reader

/-!
# How values are written

The notation, apart from any reader: which texts write which values. Blanks may stand around every item of
an array, around names and values of fields, and around the value of a document. A string is written as code
units, each as its character, as a short escape or with four hexadecimal digits.
-/

namespace SuppressionAudit

namespace Json

/-! ### Texts of values -/

def IsBlanks (s : Text) : Prop := ∀ c ∈ s, isJsonBlank c = true

/-- What stands between the quotes of a string, and the code units that it writes. -/
inductive WritesUnits : Text → List Nat → Prop
  | done : WritesUnits [] []
  | plain {c : Char} {s : Text} {units : List Nat} : c ≠ '"' → c ≠ '\\' → 0x20 ≤ c.toNat →
    WritesUnits s units → WritesUnits (c :: s) (c.toNat :: units)
  | short {e c : Char} {s : Text} {units : List Nat} : shortEscape? e = some c →
    WritesUnits s units → WritesUnits ('\\' :: e :: s) (c.toNat :: units)
  | hex {h₁ h₂ h₃ h₄ : Char} {n : Nat} {s : Text} {units : List Nat} : hexUnit? h₁ h₂ h₃ h₄ = some n →
    WritesUnits s units → WritesUnits ('\\' :: 'u' :: h₁ :: h₂ :: h₃ :: h₄ :: s) (n :: units)

inductive WritesString : Text → Text → Prop
  | quoted {inside : Text} {units : List Nat} : WritesUnits inside units →
    WritesString ('"' :: inside ++ ['"']) (textOfUnits units)

/-- A word or a number. -/
inductive WritesAtom : Text → Json → Prop
  | word {s : Text} {v : Json} : (s, v) ∈ wordValues → WritesAtom s v
  | int {s : Text} : isWholeLiteral s = true → WritesAtom s (.int (intOfLiteral s))
  | real {s : Text} (h : isRealLiteral s = true) : WritesAtom s (.real ⟨s, .inl h⟩)

mutual

inductive Writes : Text → Json → Prop
  | atom {s : Text} {v : Json} : WritesAtom s v → Writes s v
  | str {s t : Text} : WritesString s t → Writes s (.str t)
  | arr {s : Text} {items : List Json} : WritesItems s items → Writes ('[' :: s ++ [']']) (.arr items)
  | obj {s : Text} {fields : List (Text × Json)} : WritesFields s fields →
    Writes ('\x7b' :: s ++ ['\x7d']) (.obj fields)

/-- Items with the commas between them, none behind the last. -/
inductive WritesItems : Text → List Json → Prop
  | none {blanks : Text} : IsBlanks blanks → WritesItems blanks []
  | last {before s after : Text} {v : Json} : IsBlanks before → Writes s v → IsBlanks after →
    WritesItems (before ++ s ++ after) [v]
  | more {before s after rest : Text} {v w : Json} {items : List Json} : IsBlanks before → Writes s v →
    IsBlanks after → WritesItems rest (w :: items) →
      WritesItems (before ++ s ++ after ++ ',' :: rest) (v :: w :: items)

inductive WritesFields : Text → List (Text × Json) → Prop
  | none {blanks : Text} : IsBlanks blanks → WritesFields blanks []
  | last {s : Text} {field : Text × Json} : WritesField s field → WritesFields s [field]
  | more {s rest : Text} {field next : Text × Json} {fields : List (Text × Json)} : WritesField s field →
    WritesFields rest (next :: fields) → WritesFields (s ++ ',' :: rest) (field :: next :: fields)

inductive WritesField : Text → Text × Json → Prop
  | field {before key middle gap s after k : Text} {v : Json} : IsBlanks before → WritesString key k →
    IsBlanks middle → IsBlanks gap → Writes s v → IsBlanks after →
      WritesField (before ++ key ++ middle ++ ':' :: (gap ++ s ++ after)) (k, v)

end

/-- A document is one value with blanks around it. -/
inductive Document : Text → Json → Prop
  | value {before s after : Text} {v : Json} : IsBlanks before → Writes s v → IsBlanks after →
    Document (before ++ s ++ after) v

/-! ### Depth -/

mutual

/-- How many arrays and objects of a value are inside each other. -/
def depth : Json → Nat
  | .arr items => depthOfItems items + 1
  | .obj fields => depthOfFields fields + 1
  | _ => 0

def depthOfItems : List Json → Nat
  | [] => 0
  | v :: items => max (depth v) (depthOfItems items)

def depthOfFields : List (Text × Json) → Nat
  | [] => 0
  | (_, v) :: fields => max (depth v) (depthOfFields fields)

end

/-! ### First characters -/

variable {s rest : Text} {v : Json} {c : Char}

theorem isBlanks_nil : IsBlanks [] := by
  intro c hc
  simp at hc

theorem isBlanks_cons_iff : IsBlanks (c :: s) ↔ isJsonBlank c = true ∧ IsBlanks s := List.forall_mem_cons

/-- The next text cannot be taken for a part of a number. -/
def EndsNumber (rest : Text) : Prop := ∀ c, rest.head? = some c → isNumberChar c = false

theorem endsNumber_nil : EndsNumber [] := by
  intro c hc
  simp at hc

theorem endsNumber_cons (h : isNumberChar c = false) : EndsNumber (c :: rest) := by
  intro d hd
  obtain rfl := Option.some.inj hd
  exact h

theorem isNumberChar_of_isJsonBlank (h : isJsonBlank c = true) : isNumberChar c = false := by
  simp only [isJsonBlank, Bool.or_eq_true, beq_iff_eq] at h
  rcases h with ((rfl | rfl) | rfl) | rfl <;> rfl

theorem IsBlanks.endsNumber (h : IsBlanks s) (hrest : EndsNumber rest) : EndsNumber (s ++ rest) := by
  cases s with
  | nil => exact hrest
  | cons c s => exact endsNumber_cons (isNumberChar_of_isJsonBlank (isBlanks_cons_iff.1 h).1)

end Json

end SuppressionAudit

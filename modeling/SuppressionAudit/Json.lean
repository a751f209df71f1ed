import SuppressionAudit.Text

/-!
# JSON values

The audit reads two JSON documents, the allowlist and the linter's answer, and hands rule options
through unread. An object keeps its fields as they were written; the last field of a name is the one
that counts. Whole numbers are integers of any size. A number with a fraction or an exponent is
kept as its literal, since nothing is ever computed from it, and so are the three literals for
values that are not finite.
-/

namespace SuppressionAudit

/-! ### Number literals -/

namespace Json

def isDigit (c : Char) : Bool := '0' ≤ c && c ≤ '9'

/-- Digits of a whole number: at least one, and no zero before another digit. -/
def isWhole : Text → Bool
  | [] => false
  | ['0'] => true
  | c :: s => c != '0' && isDigit c && s.all isDigit

/-- At least one digit and nothing else. -/
def isDigits (s : Text) : Bool := !s.isEmpty && s.all isDigit

/-- An exponent without its mark: digits, perhaps after a sign. -/
def isExponent : Text → Bool
  | '+' :: s => isDigits s
  | '-' :: s => isDigits s
  | s => isDigits s

/-- What may follow the whole part of a number: a fraction, an exponent, or both. -/
def isFractional (s : Text) : Bool :=
  match s with
  | '.' :: s =>
    isDigits (s.takeWhile isDigit) &&
      match s.dropWhile isDigit with
      | [] => true
      | mark :: exponent => (mark == 'e' || mark == 'E') && isExponent exponent
  | mark :: exponent => (mark == 'e' || mark == 'E') && isExponent exponent
  | [] => false

/-- A literal without its minus sign. -/
def unsigned : Text → Text
  | '-' :: s => s
  | s => s

def isWholeLiteral (s : Text) : Bool := isWhole (unsigned s)

def isRealLiteral (s : Text) : Bool :=
  isWhole ((unsigned s).takeWhile isDigit) && isFractional ((unsigned s).dropWhile isDigit)

def infinities : List Text :=
  ["NaN".toList, "Infinity".toList, "-Infinity".toList]

/-- A number that is no integer, as it is written. -/
structure RealLiteral where
  text : Text
  valid : isRealLiteral text = true ∨ text ∈ infinities
deriving DecidableEq

end Json

/-! ### Values -/

/-- A JSON value. -/
inductive Json where
  | null
  | bool (b : Bool)
  | int (n : Int)
  | real (r : Json.RealLiteral)
  | str (s : Text)
  | arr (items : List Json)
  | obj (fields : List (Text × Json))

namespace Json

instance : Inhabited Json := ⟨.null⟩

/-! ### Equality -/

mutual

/-- Whether two values are the same, compared part by part. -/
def same : Json → Json → Bool
  | .null, .null => true
  | .bool a, .bool b => a == b
  | .int a, .int b => a == b
  | .real a, .real b => a == b
  | .str a, .str b => a == b
  | .arr a, .arr b => sameItems a b
  | .obj a, .obj b => sameFields a b
  | _, _ => false

def sameItems : List Json → List Json → Bool
  | [], [] => true
  | v :: a, w :: b => same v w && sameItems a b
  | _, _ => false

def sameFields : List (Text × Json) → List (Text × Json) → Bool
  | [], [] => true
  | (k, v) :: a, (l, w) :: b => k == l && same v w && sameFields a b
  | _, _ => false

end

mutual

theorem same_iff : ∀ {v w : Json}, same v w = true ↔ v = w
  | .null, w => by cases w <;> simp [same]
  | .bool a, w => by cases w <;> simp [same]
  | .int a, w => by cases w <;> simp [same]
  | .real a, w => by cases w <;> simp [same]
  | .str a, w => by cases w <;> simp [same]
  | .arr a, w => by cases w <;> simp [same, sameItems_iff]
  | .obj a, w => by cases w <;> simp [same, sameFields_iff]

theorem sameItems_iff : ∀ {a b : List Json}, sameItems a b = true ↔ a = b
  | [], b => by cases b <;> simp [sameItems]
  | v :: a, b => by cases b <;> simp [sameItems, same_iff, sameItems_iff]

theorem sameFields_iff : ∀ {a b : List (Text × Json)}, sameFields a b = true ↔ a = b
  | [], b => by cases b <;> simp [sameFields]
  | (k, v) :: a, b => by cases b <;> simp [sameFields, same_iff, sameFields_iff, Prod.ext_iff]

end

instance : DecidableEq Json := fun _ _ => decidable_of_iff _ same_iff

/-! ### Fields and items -/

/-- The value that counts among fields: that of the last field of the name. -/
def lookup (key : Text) : List (Text × Json) → Option Json
  | [] => none
  | (k, v) :: fields =>
    match lookup key fields with
    | some w => some w
    | none => if k = key then some v else none

def get? (key : Text) : Json → Option Json
  | .obj fields => lookup key fields
  | _ => none

def text? : Json → Option Text
  | .str s => some s
  | _ => none

def items? : Json → Option (List Json)
  | .arr items => some items
  | _ => none

def bool? : Json → Option Bool
  | .bool b => some b
  | _ => none

def int? : Json → Option Int
  | .int n => some n
  | _ => none

theorem lookup_append (key : Text) (fields more : List (Text × Json)) :
    lookup key (fields ++ more) = (lookup key more).or (lookup key fields) := by
  induction fields with
  | nil => cases h : lookup key more <;> simp [lookup, h]
  | cons field fields ih =>
    obtain ⟨k, v⟩ := field
    rw [List.cons_append, lookup, ih]
    cases h : lookup key more <;> simp [lookup]

theorem lookup_isSome_iff (key : Text) (fields : List (Text × Json)) :
    (lookup key fields).isSome = true ↔ key ∈ fields.map Prod.fst := by
  induction fields with
  | nil => simp [lookup]
  | cons field fields ih =>
    obtain ⟨k, v⟩ := field
    rw [lookup, List.map_cons, List.mem_cons, ← ih]
    cases h : lookup key fields with
    | some w => simp
    | none =>
      by_cases e : k = key
      · simp [e]
      · simpa [e] using fun h : key = k => e h.symm

end Json

end SuppressionAudit

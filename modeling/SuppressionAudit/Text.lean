/-!
# Text

Every layer of the audit reads and writes text as a list of characters, so that an offset is a
number of characters and a function on text is a recursion on a list. This module holds the few
operations that all layers share: taking a literal off the front, cutting at a separator, and the
two comparisons that sorted answers need.
-/

namespace SuppressionAudit

/-- A text is its list of characters. -/
abbrev Text := List Char

namespace Text

/-! ### Literals -/

/-- What follows `literal` in a text that begins with it. -/
def dropLiteral? : Text → Text → Option Text
  | [], s => some s
  | _ :: _, [] => none
  | a :: literal, c :: s => if a = c then dropLiteral? literal s else none

def startsWith (s literal : Text) : Bool := (dropLiteral? literal s).isSome

def endsWith (s literal : Text) : Bool := startsWith s.reverse literal.reverse

theorem dropLiteral?_append (literal s : Text) : dropLiteral? literal (literal ++ s) = some s := by
  induction literal with
  | nil => rfl
  | cons a literal ih => simp [dropLiteral?, ih]

theorem dropLiteral?_eq_some {literal s rest : Text} (h : dropLiteral? literal s = some rest) :
    s = literal ++ rest := by
  induction literal generalizing s with
  | nil => simpa [dropLiteral?] using h
  | cons a literal ih =>
    cases s with
    | nil => simp [dropLiteral?] at h
    | cons c s =>
      by_cases e : a = c
      · simp only [dropLiteral?, e, if_true] at h
        rw [e, ih h, List.cons_append]
      · simp [dropLiteral?, e] at h

/-- The part of a text before the first occurrence of `literal`, and the part after it. -/
def splitAtFirst? (literal : Text) : Text → Option (Text × Text)
  | [] => none
  | c :: s =>
    match dropLiteral? literal (c :: s) with
    | some rest => some ([], rest)
    | none => (splitAtFirst? literal s).map fun p => (c :: p.1, p.2)

theorem splitAtFirst?_eq_some {literal s before after : Text}
    (h : splitAtFirst? literal s = some (before, after)) : s = before ++ literal ++ after := by
  induction s generalizing before with
  | nil => simp [splitAtFirst?] at h
  | cons c s ih =>
    unfold splitAtFirst? at h
    split at h
    · next rest hd =>
      simp only [Option.some.injEq, Prod.mk.injEq] at h
      obtain ⟨rfl, rfl⟩ := h
      simpa using dropLiteral?_eq_some hd
    · obtain ⟨p, hp, he⟩ := Option.map_eq_some_iff.1 h
      simp only [Prod.mk.injEq] at he
      obtain ⟨rfl, rfl⟩ := he
      rw [List.cons_append, List.cons_append, ← ih hp]

/-! ### Separators -/

/-- The pieces of a text between the occurrences of a separator; there is always one. -/
def splitOn (sep : Char) : Text → List Text
  | [] => [[]]
  | c :: s =>
    if c = sep then [] :: splitOn sep s
    else
      match splitOn sep s with
      | [] => [[c]]
      | piece :: pieces => (c :: piece) :: pieces

/-- The texts of a list, with `sep` between neighbours. -/
def joinWith (sep : Text) : List Text → Text
  | [] => []
  | [s] => s
  | s :: t :: rest => s ++ sep ++ joinWith sep (t :: rest)

/-- The part of a text before the first occurrence of a character, and the part after it. -/
def cutAt (sep : Char) : Text → Text × Option Text
  | [] => ([], none)
  | c :: s => if c = sep then ([], some s) else (c :: (cutAt sep s).1, (cutAt sep s).2)

theorem splitOn_ne_nil (sep : Char) (s : Text) : splitOn sep s ≠ [] := by
  cases s with
  | nil => simp [splitOn]
  | cons c s =>
    by_cases h : c = sep
    · simp [splitOn, h]
    · simp only [splitOn, h, if_false]
      split <;> simp

theorem joinWith_splitOn (sep : Char) (s : Text) : joinWith [sep] (splitOn sep s) = s := by
  induction s with
  | nil => rfl
  | cons c s ih =>
    by_cases h : c = sep
    · rw [splitOn, if_pos h]
      cases hs : splitOn sep s with
      | nil => exact absurd hs (splitOn_ne_nil sep s)
      | cons piece pieces => rw [joinWith, ← hs, ih, h]; rfl
    · rw [splitOn, if_neg h]
      cases hs : splitOn sep s with
      | nil => exact absurd hs (splitOn_ne_nil sep s)
      | cons piece pieces =>
        rw [hs] at ih
        cases pieces with
        | nil => simpa [joinWith] using ih
        | cons next more => simpa [joinWith] using ih

/-! ### Ranges of characters -/

/-- Whether a code point lies in one of some ranges, which hold both their ends. -/
def inRanges (n : Nat) (ranges : List (Nat × Nat)) : Bool :=
  ranges.any fun range => range.1 ≤ n && n ≤ range.2

/-! ### Tails -/

/-- Every tail of a list, from the whole list down to the empty one. -/
def tails {α : Type} : List α → List (List α)
  | [] => [[]]
  | x :: xs => (x :: xs) :: tails xs

/-! ### Numbers -/

def sumOf : List Nat → Nat
  | [] => 0
  | n :: numbers => n + sumOf numbers

def ofNat (n : Nat) : Text := Nat.toDigits 10 n

end Text

end SuppressionAudit

import SuppressionAudit.Text

/-!
# Line breaks

A file is read with one kind of line break: a carriage return, alone or before a newline, is read
as a newline. Lines themselves are cut at newlines only.
-/

namespace SuppressionAudit

namespace Text

/-- A text with its line breaks unified, when the character before it was a carriage return or not. -/
def unifyAfter (afterReturn : Bool) : Text → Text
  | [] => []
  | c :: s =>
    if c = '\r' then '\n' :: unifyAfter true s
    else if c = '\n' ∧ afterReturn = true then unifyAfter false s
    else c :: unifyAfter false s

/-- A text with every carriage return, and every carriage return before a newline, read as a newline. -/
def unifyLineBreaks (s : Text) : Text := unifyAfter false s

/-- The lines of a text; a text that ends in a newline has an empty last line. -/
def lines (s : Text) : List Text := splitOn '\n' s

def dropReturns : Text → Text
  | [] => []
  | c :: s =>
    match dropReturns s with
    | [] => if c = '\r' then [] else [c]
    | d :: rest => c :: d :: rest

/-- The characters at which a measured text breaks: more than the newline that printing breaks at. -/
def isLineBoundary (c : Char) : Bool :=
  let n := c.toNat
  (10 ≤ n && n ≤ 13) || (28 ≤ n && n ≤ 30) || n == 0x85 || n == 0x2028 || n == 0x2029

/-- The pieces of a text between its line boundaries, each as long as it is measured. -/
def measuredLines : Text → List Text
  | [] => [[]]
  | c :: s =>
    if isLineBoundary c then [] :: measuredLines s
    else
      match measuredLines s with
      | [] => [[c]]
      | piece :: pieces => (c :: piece) :: pieces

theorem not_mem_unifyAfter (afterReturn : Bool) (s : Text) : '\r' ∉ unifyAfter afterReturn s := by
  induction s generalizing afterReturn with
  | nil => simp [unifyAfter]
  | cons c s ih =>
    unfold unifyAfter
    split
    · simp [ih]
    · next hc =>
      split
      · exact ih false
      · simp [ih, Ne.symm hc]

theorem not_mem_unifyLineBreaks (s : Text) : '\r' ∉ unifyLineBreaks s := not_mem_unifyAfter false s

theorem unifyLineBreaks_of_not_mem {s : Text} (h : '\r' ∉ s) : unifyLineBreaks s = s := by
  induction s with
  | nil => rfl
  | cons c s ih =>
    rw [List.mem_cons, not_or] at h
    have hrest : unifyAfter false s = s := ih h.2
    simp [unifyLineBreaks, unifyAfter, Ne.symm h.1, hrest]

end Text

end SuppressionAudit

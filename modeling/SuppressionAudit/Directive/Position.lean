import SuppressionAudit.Text

/-!
# Positions

A position is a line and a column, both counted from one. Reading a character moves it: a newline
to the start of the next line, any other character one column on. The position of an offset is
where reading the text before it ends.
-/

namespace SuppressionAudit

structure Position where
  line : Nat
  column : Nat
deriving DecidableEq, Repr

namespace Position

/-- Where every text begins. -/
def start : Position := ⟨1, 1⟩

def next (p : Position) (c : Char) : Position :=
  if c = '\n' then ⟨p.line + 1, 1⟩ else ⟨p.line, p.column + 1⟩

def after (p : Position) (s : Text) : Position := s.foldl next p

/-- Whether a position does not come after another. -/
def le (p q : Position) : Bool := p.line < q.line || (p.line == q.line && p.column ≤ q.column)

theorem after_nil (p : Position) : p.after [] = p := rfl

theorem after_cons (p : Position) (c : Char) (s : Text) : p.after (c :: s) = (p.next c).after s := rfl

theorem after_append (p : Position) (s t : Text) : p.after (s ++ t) = (p.after s).after t := by
  simp [after, List.foldl_append]

theorem after_line (p : Position) (s : Text) : (p.after s).line = p.line + s.count '\n' := by
  induction s generalizing p with
  | nil => simp [after]
  | cons c s ih =>
    rw [after_cons, ih]
    by_cases h : c = '\n'
    · simp only [next, h, if_true, List.count_cons_self]
      omega
    · simp [next, h]

theorem one_le_column_next {p : Position} (h : 1 ≤ p.column) (c : Char) : 1 ≤ (p.next c).column := by
  unfold next
  split
  · exact Nat.le_refl 1
  · exact Nat.le_succ_of_le h

theorem one_le_column_after {p : Position} (h : 1 ≤ p.column) (s : Text) :
    1 ≤ (p.after s).column := by
  induction s generalizing p with
  | nil => exact h
  | cons c s ih => exact ih (one_le_column_next h c)

end Position

end SuppressionAudit

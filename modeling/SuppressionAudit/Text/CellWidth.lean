import SuppressionAudit.Text.CellTable

/-!
# Width on the console

A console line is measured in cells. A character that a joiner attaches to the one before it adds
nothing, and the mark that asks for the emoji style makes the latest character that takes cells one
cell wider where it can be. Main statement: without joiners and marks the width of a text is the sum
of the widths of its characters.
-/

namespace SuppressionAudit

namespace Text

/-- The character that attaches the next one to the one before it. -/
def joiner : Char := '\u200D'

/-- The mark that asks for the emoji style of the character before it. -/
def emojiMark : Char := '\uFE0F'

/-- The cell that the mark of the emoji style adds to the latest character that takes cells. -/
def markWidth (latest : Option Char) : Nat := if latest.any isWidenable then 1 else 0

/-- The cells of the characters of a text after a joiner or not, and after the latest character that
takes cells, if there is one that a mark can still make wider. -/
def widthAfter : Bool → Option Char → Text → Nat
  | _, _, [] => 0
  | true, latest, _ :: s => widthAfter false latest s
  | false, latest, c :: s =>
    if c = joiner then widthAfter true latest s
    else if c = emojiMark then markWidth latest + widthAfter false none s
    else charWidth c + widthAfter false (if charWidth c = 0 then latest else some c) s

def width (s : Text) : Nat := widthAfter false none s

theorem widthAfter_eq_sum {s : Text} (h : ∀ c ∈ s, c ≠ joiner ∧ c ≠ emojiMark)
    (latest : Option Char) : widthAfter false latest s = sumOf (s.map charWidth) := by
  induction s generalizing latest with
  | nil => rfl
  | cons c s ih =>
    have hc := h c (by simp)
    simp only [widthAfter, if_neg hc.1, if_neg hc.2, List.map_cons, sumOf]
    rw [ih (fun d hd => h d (List.mem_cons_of_mem c hd))]

theorem width_eq_sum {s : Text} (h : ∀ c ∈ s, c ≠ joiner ∧ c ≠ emojiMark) :
    width s = sumOf (s.map charWidth) := widthAfter_eq_sum h none

def spaces (n : Nat) : Text := List.replicate n ' '

def padRight (total : Nat) (s : Text) : Text := s ++ spaces (total - width s)

def padLeft (total : Nat) (s : Text) : Text := spaces (total - width s) ++ s

end Text

end SuppressionAudit

import SuppressionAudit.Report.Literal.Escape

/-!
# Fields of formatted texts

A formatted text has fields in braces: an expression, perhaps with a conversion, and perhaps with a
format that may have fields of its own, but no deeper ones. A brace that is written twice stands for
itself. Main definition: the first fault in a formatted text, where expressions are read by a given
reader.
-/

namespace SuppressionAudit

namespace Literal

namespace Field

/-- What a piece of plain text is followed by, and whether it ends with a brace that is written twice. -/
structure Piece where
  content : Text
  isDoubled : Bool
  rest : Text
deriving DecidableEq, Repr

def Piece.cons (c : Char) (p : Piece) : Piece := { p with content := c :: p.content }

/-- A piece that ends at a brace, where a text begins with that. Inside of a format no brace is written
twice. -/
def braceAt (isInner : Bool) (brace : Char) (s : Text) : Except FieldFault Piece :=
  if isInner then .ok ⟨[], false, brace :: s⟩
  else
    match s with
    | c :: rest =>
      if c = brace then .ok ⟨[brace], true, rest⟩
      else if brace = '\x7D' then .error .loneBrace
      else .ok ⟨[], false, brace :: s⟩
    | [] => if brace = '\x7D' then .error .loneBrace else .ok ⟨[], false, brace :: s⟩

def isBrace (c : Char) : Bool := c == '\x7B' || c == '\x7D'

/-- The plain text at the front of a text. The braces around the name of a character are no fields. -/
def readPiece (isRaw isInner : Bool) : Nat → Text → Except FieldFault Piece
  | 0, s => .ok ⟨[], false, s⟩
  | _ + 1, [] => .ok ⟨[], false, []⟩
  | fuel + 1, c :: s =>
    match isRaw, c, s with
    | false, '\\', 'N' :: '\x7B' :: s =>
      let name := s.takeWhile (· != '\x7D')
      let skipped := s.take (name.length + 1)
      (readPiece isRaw isInner fuel (s.drop (name.length + 1))).map fun p =>
        { p with content := ['\\', 'N', '\x7B'] ++ skipped ++ p.content }
    | false, '\\', 'N' :: d :: s =>
      (readPiece isRaw isInner fuel s).map fun p => { p with content := ['\\', 'N', d] ++ p.content }
    | false, '\\', d :: s =>
      if isBrace d then (braceAt isInner d s).map (Piece.cons '\\')
      else (readPiece isRaw isInner fuel s).map fun p => (p.cons d).cons '\\'
    | _, _, _ =>
      if isBrace c then braceAt isInner c s else (readPiece isRaw isInner fuel s).map (Piece.cons c)

/-- A quote that is open in an expression, and whether it is written three times. -/
structure OpenQuote where
  quote : Char
  isLong : Bool
deriving DecidableEq, Repr

/-- The marks that two characters make, where the first alone would end an expression. -/
def doubleMarks : List Text := ["!=".toList, "==".toList, "<=".toList, ">=".toList]

/-- The expression at the front of a field, latest character first so far, and what ends it. -/
def readExpression : Nat → Option OpenQuote → List Char → Text → Text →
    Except FieldFault (Text × Text)
  | 0, _, _, _, _ => .error .unclosed
  | _ + 1, quote, opened, _, [] =>
    match quote, opened with
    | some _, _ => .error .unterminatedText
    | none, bracket :: _ => .error (.unmatched bracket)
    | none, [] => .error .unclosed
  | fuel + 1, quote, opened, done, c :: s =>
    if c = '\\' then .error .backslash
    else
      match quote with
      | some q =>
        if c ≠ q.quote then readExpression fuel quote opened (c :: done) s
        else if !q.isLong then readExpression fuel none opened (c :: done) s
        else if Text.startsWith s [c, c] then
          readExpression fuel none opened ([c, c, c] ++ done) (s.drop 2)
        else readExpression fuel quote opened (c :: done) s
      | none =>
        if c = '\'' ∨ c = '"' then
          if Text.startsWith s [c, c] then
            readExpression fuel (some ⟨c, true⟩) opened ([c, c, c] ++ done) (s.drop 2)
          else readExpression fuel (some ⟨c, false⟩) opened (c :: done) s
        else if opens c then
          if bracketLimit ≤ opened.length then .error .tooManyBrackets
          else readExpression fuel none (c :: opened) (c :: done) s
        else if c = '#' then .error .comment
        else if opened.isEmpty && doubleMarks.any (Text.startsWith (c :: s)) then
          readExpression fuel none opened (s.take 1 ++ c :: done) (s.drop 1)
        else if opened.isEmpty && ['!', ':', '\x7D', '='].contains c then .ok (done.reverse, c :: s)
        else if closes c then
          match opened with
          | [] => .error (.unmatched c)
          | bracket :: opened =>
            if closingOf bracket = c then readExpression fuel none opened (c :: done) s
            else .error (.mismatched c bracket)
        else readExpression fuel none opened (c :: done) s

/-- Whether an expression is left out, where a mark follows it. -/
def emptyFault? (expression : Text) (mark : Option Char) : Option FieldFault :=
  if expression.all fun c => c == ' ' || c == '\t' || c == '\n' || c == '\x0C' then
    match mark with
    | some c => some (if c = '\x7D' then .empty else .emptyBefore c)
    | none => some .empty
  else none

/-- What follows the mark that shows the text of an expression, with the blanks after it. -/
def skipShown (s : Text) : Text :=
  match s with
  | '=' :: rest => rest.dropWhile fun c => c == ' ' || ('\t' ≤ c && c ≤ '\r')
  | _ => s

def skipConversion (s : Text) : Except FieldFault Text :=
  match s with
  | '!' :: c :: rest => if ['s', 'r', 'a'].contains c then .ok rest else .error .conversion
  | ['!'] => .error .unclosed
  | _ => .ok s

def skipEnd (s : Text) : Except FieldFault Text :=
  match s with
  | '\x7D' :: rest => .ok rest
  | _ => .error .unclosed

def depthLimit : Nat := 2

section

variable (escapeFault? : Text → Option Fault) (tell : Fault → Fault)
  (read : Nat → Text → Except Fault Unit)

/-- A fault of a field as it is told. -/
def told {α : Type} (r : Except FieldFault α) : Except Fault α :=
  r.mapError fun fault => tell (.field fault)

/-- What follows the pieces and fields of a text: nothing, or what ends the format that they are. The
line of the text counts, and what the whole text has more. -/
def readAll (isRaw : Bool) (line : Text → Nat) : Nat → Nat → Text → Except Fault Text
  | 0, _, s => .ok s
  | fuel + 1, depth, s => do
    let piece ← told tell (readPiece isRaw (depth != 0) (s.length + 1) s)
    if let some fault := if isRaw then none else escapeFault? piece.content then
      throw (tell fault)
    if piece.isDoubled then readAll isRaw line fuel depth piece.rest
    else
      match piece.rest with
      | '\x7B' :: inner =>
        if depthLimit ≤ depth then throw (tell (.field .tooDeep))
        let (expression, rest) ← told tell (readExpression (inner.length + 1) none [] [] inner)
        if let some fault := emptyFault? expression rest.head? then throw (tell (.field fault))
        read (line piece.rest) expression
        let rest ← told tell (skipConversion (skipShown rest))
        let rest ← match rest with
          | [':'] => throw (tell (.field .unclosed))
          | ':' :: format => readAll isRaw line fuel (depth + 1) format
          | _ => pure rest
        let rest ← told tell (skipEnd rest)
        readAll isRaw line fuel depth rest
      | rest => pure rest

def check (q : Quotation) : Except Fault Unit := do
  let line := fun rest : Text =>
    q.line + (q.body.take (q.body.length - rest.length)).count '\n'
  let _ ← readAll escapeFault? tell read q.raw line (q.body.length + 1) 0 q.body
  return ()

end

/-! ### Texts without fields -/

theorem skipShown_of_mark {c : Char} {s : Text} (h : c ≠ '=') : skipShown (c :: s) = c :: s := by
  unfold skipShown
  split
  · exact absurd (List.cons.inj ‹_›).1 h
  · rfl

theorem skipEnd_eq_ok_iff {s rest : Text} : skipEnd s = .ok rest ↔ s = '\x7D' :: rest := by
  unfold skipEnd
  split
  · simp
  · rename_i h
    constructor
    · intro e
      cases e
    · intro e
      exact absurd e (h rest)

end Field

end Literal

end SuppressionAudit

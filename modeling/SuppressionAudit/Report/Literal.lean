import SuppressionAudit.Report.Literal.Field
import SuppressionAudit.Report.Literal.Reading
import SuppressionAudit.Report.Literal.Rules
import SuppressionAudit.Text.CharacterName

/-!
# Literals

A literal is a number, a quoted text, a truth value, nothing, or a tuple, set or dictionary of literals.
It is read as an expression first, so that a fault of the notation is told apart from an expression
without a fixed value. A text that cannot be read is read a second time, to find out why; a fault of its
later tokens counts more than one of their order. Main definition: the fault of a text, if it is no
literal.
-/

namespace SuppressionAudit

namespace Literal

/-! ### Quoted texts -/

/-- The fault of a quoted text without fields. -/
def plainFault? (q : Quotation) : Option Fault :=
  if q.formatted then none
  else if q.bytes then
    if q.body.any fun c => 0x80 ≤ c.toNat then some (.order .byteTextNotAscii)
    else if q.raw then none
    else Escape.byteFault? q.body
  else if q.raw then none
  else Escape.fault? CharacterName.isName q.body

/-- What quoted texts one after another stand for. All or none of them hold bytes; `bytes` tells it of
those before, and `formatted` whether one of those has fields. -/
def readTexts (tell : Fault → Fault) (read : Nat → Text → Except Fault Unit) :
    Option Bool → Bool → List Quotation → Except Fault Expression
  | _, formatted, [] => .ok (if formatted then .other .formattedText 1 else .constant .text)
  | bytes, formatted, q :: rest =>
    match plainFault? q with
    | some fault => .error (tell fault)
    | none =>
      if bytes.any (· != q.bytes) then .error (tell (.order .mixedTexts))
      else if q.formatted then
        match Field.check (Escape.fault? CharacterName.isName) tell read q with
        | .error fault => .error fault
        | .ok _ => readTexts tell read (some q.bytes) true rest
      else readTexts tell read (some q.bytes) formatted rest

/-! ### Faults of what is read -/

section

variable (setting : Setting Rule)

/-- The fault of the rest of the tokens, after some that were fetched: of a later token, or of a bracket
that was opened on an earlier line than the last of those. -/
def restFault? (fetched : Nat) : Option Fault :=
  match setting.source.ending with
  | .refused fault => some fault
  | _ =>
    match setting.source.unclosed, setting.source.lexemes[fetched - 1]? with
    | some bracket, some last =>
      if bracket.line < last.line then some (setting.tell (.neverClosed bracket.opening)) else none
    | _, _ => none

/-- The fault that counts when a reading is refused. -/
def settle (refusal : Refusal) : Fault :=
  if refusal.fault.isSyntactic && refusal.fetched < setting.source.seenAfter then
    (restFault? setting refusal.fetched).getD refusal.fault
  else refusal.fault

/-- The fault of tokens that no rule can read, after a first reading that fetched some tokens and a
second one. -/
def orderFault (first second : Nat) : Fault :=
  match (setting.source.lexemes[first - 1]?).map Lexeme.token with
  | some .indent => setting.tell (.order .unexpectedIndent)
  | some .unindent => setting.tell (.order .unexpectedUnindent)
  | _ => (restFault? setting second).getD (setting.tell (.order .invalidSyntax))

def readExpression (r : Rule) : Except Fault Expression :=
  match readFrom setting false 0 r with
  | .error refusal => .error (settle setting refusal)
  | .ok (some (.expression e), _) => .ok e
  | .ok (_, p) =>
    match readFrom setting true p.fetched r with
    | .error refusal => .error (settle setting refusal)
    | .ok (_, q) => .error (orderFault setting p.fetched q.fetched)

end

/-! ### Whole texts -/

/-- The expression of a text whose first line has a number. Expressions in fields are inside each other
up to a depth. -/
def expression (isField : Bool) : Nat → Nat → Text → Except Fault Expression
  | 0, _, _ => .error .tooLarge
  | depth + 1, line, s =>
    let tell := if isField then Fault.inField else id
    let read := fun line inner =>
      (expression true depth line ('(' :: inner ++ [')', '\n'])).map fun _ => ()
    let setting : Setting Rule :=
      ⟨Rule.grammar, tokens line s, tell, readTexts tell read none false⟩
    readExpression setting (if isField then .fieldContent else .whole)

def fault? (s : Text) : Option Fault :=
  if s.contains '\x00' then some .zeroCharacter
  else
    let s := plainBreaks (s.dropWhile fun c => c == ' ' || c == '\t')
    match expression false (s.length + 1) 1 s with
    | .error fault => some fault
    | .ok e => e.fault?

theorem fault?_of_zero {s : Text} (h : s.contains '\x00' = true) : fault? s = some .zeroCharacter := by
  rw [fault?, if_pos h]

end Literal

end SuppressionAudit

import SuppressionAudit.Directive.Marker
import SuppressionAudit.Directive.Suppression
import SuppressionAudit.Text.LineBreak

/-!
# Line comment directives

A line comment that disables rules. The first one of a line takes all that follows on that line, so
a line holds at most one. Carriage returns at the end of a line do not belong to it.
-/

namespace SuppressionAudit

namespace LineComment

/-- The offset and the text of the rule list of the first directive on a line. -/
def body? : Text → Option (Nat × Text)
  | [] => none
  | c :: s =>
    match Marker.lineComment? (c :: s) with
    | some body => some ((c :: s).length - body.length, body)
    | none => (body? s).map fun p => (p.1 + 1, p.2)

def suppressionsOn (line : Nat) (s : Text) : List Suppression :=
  match body? (Text.dropReturns s) with
  | none => []
  | some (start, body) =>
    (RuleList.parse body).suppressionsAt .line fun m => ⟨line, start + m.offset + 1⟩

def suppressionsFrom (line : Nat) : List Text → List Suppression
  | [] => []
  | s :: rest => suppressionsOn line s ++ suppressionsFrom (line + 1) rest

/-- The suppressions of the line comment directives of a text, line by line. -/
def suppressions (content : Text) : List Suppression := suppressionsFrom 1 (Text.lines content)

end LineComment

end SuppressionAudit

import SuppressionAudit.Directive.Marker
import SuppressionAudit.Directive.Suppression

/-!
# Qualified block directives

A block comment that disables rules for one line. The rule list runs to the end of the comment; when
the comment is never closed, to the end of the line that the list starts on. Each rule is reported
at the place where it is written, however many lines the comment spans. One comment may be nested in
the body of another, so every offset of a text is looked at.
-/

namespace SuppressionAudit

namespace Qualified

/-- The body of a directive, in the text that follows its marker. -/
def bodyOf (s : Text) : Text :=
  match Text.splitAtFirst? Marker.blockClosing s with
  | some (body, _) => body
  | none => s.takeWhile fun c => c != '\n'

/-- The suppressions of the directive in front of a text that starts at a position. -/
def suppressionsHere (p : Position) (s : Text) : List Suppression :=
  match Marker.qualified? s with
  | none => []
  | some rest =>
    let body := bodyOf rest
    let bodyStart := p.after (s.take (s.length - rest.length))
    (RuleList.parse body).suppressionsAt .line fun m => bodyStart.after (body.take m.offset)

def suppressionsFrom (p : Position) : Text → List Suppression
  | [] => []
  | c :: s => suppressionsHere p (c :: s) ++ suppressionsFrom (p.next c) s

/-- The suppressions of the qualified block directives of a text, in the order of their comments. -/
def suppressions (content : Text) : List Suppression := suppressionsFrom Position.start content

end Qualified

end SuppressionAudit

import SuppressionAudit.Directive.Marker
import SuppressionAudit.Directive.Suppression

/-!
# Block directives

A block comment that disables rules for the whole file. Its body holds no asterisk. Comments are
found from left to right and do not overlap: the search goes on behind the comment that was found.
-/

namespace SuppressionAudit

namespace Block

/-- The body of a directive in front of a text, and what follows its comment. -/
def comment? (s : Text) : Option (Text × Text) :=
  match Marker.block? s with
  | none => none
  | some s =>
    match Text.dropLiteral? Marker.blockClosing (s.dropWhile fun c => c != '*') with
    | some rest => some (s.takeWhile fun c => c != '*', rest)
    | none => none

/-- The bodies of the directives in a text whose first `inside` characters belong to a comment that
was found before. -/
def bodiesAfter : Nat → Text → List Text
  | _, [] => []
  | inside + 1, _ :: s => bodiesAfter inside s
  | 0, c :: s =>
    match comment? (c :: s) with
    | some (body, rest) => body :: bodiesAfter (s.length - rest.length) s
    | none => bodiesAfter 0 s

/-- The bodies of the directives of a text. -/
def bodies (content : Text) : List Text := bodiesAfter 0 content

/-- The suppressions of the block directives of a text, all at its start. -/
def suppressions (content : Text) : List Suppression :=
  (bodies content).flatMap fun body =>
    (RuleList.parse body).suppressionsAt .block fun _ => Position.start

end Block

end SuppressionAudit

import SuppressionAudit.Directive.Position
import SuppressionAudit.Directive.RuleList

/-!
# Suppressions

One suppression is one rule that one directive disables, with the place where it is written, the
directive's reason, and the form of the directive: a block comment disables its rules for the whole
file and is reported at its start, a line form is reported where the rule is named.
-/

namespace SuppressionAudit

inductive SuppressionKind where
  | block
  | line
deriving DecidableEq, Repr

namespace SuppressionKind

def name : SuppressionKind → Text
  | .block => "block".toList
  | .line => "line".toList

def ofName? (s : Text) : Option SuppressionKind :=
  if s = name .block then some .block else if s = name .line then some .line else none

end SuppressionKind

/-- A rule that a directive disables. -/
structure Suppression where
  rule : Text
  position : Position
  justification : Option Text
  kind : SuppressionKind
deriving DecidableEq, Repr

namespace Suppression

def isUnjustified (s : Suppression) : Bool := s.justification.isNone

/-- Whether a suppression is not written after another. -/
def le (s t : Suppression) : Bool := s.position.le t.position

end Suppression

/-- The suppressions of a rule list whose first character stands at a position. -/
def RuleList.suppressionsAt (list : RuleList) (kind : SuppressionKind) (place : RuleMention → Position) :
    List Suppression :=
  list.rules.map fun mention => ⟨mention.name, place mention, list.justification, kind⟩

end SuppressionAudit

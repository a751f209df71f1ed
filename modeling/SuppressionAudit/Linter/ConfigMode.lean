import SuppressionAudit.Text

/-!
# Modes of the linter

The linter reads a project's configuration in one of two modes. The words for them are also how its
process is told the mode.
-/

namespace SuppressionAudit

inductive ConfigMode where
  | flat
  | legacy
deriving DecidableEq, Repr

namespace ConfigMode

def name : ConfigMode → Text
  | .flat => "flat".toList
  | .legacy => "legacy".toList

def ofName? (s : Text) : Option ConfigMode :=
  if s = name .flat then some .flat else if s = name .legacy then some .legacy else none

end ConfigMode

end SuppressionAudit

import SuppressionAudit.Directive.Block
import SuppressionAudit.Directive.LineComment
import SuppressionAudit.Directive.Qualified
import SuppressionAudit.StableSort

/-!
# Extraction

All suppressions of a file, read from its text alone, so that a directive inside a string counts
too. The block directives come first. The line forms follow in the order of their positions, a
qualified block directive before a line comment at the same place.
-/

namespace SuppressionAudit

def lineFormSuppressions (content : Text) : List Suppression :=
  stableSort Suppression.le (Qualified.suppressions content ++ LineComment.suppressions content)

def extractSuppressions (content : Text) : List Suppression :=
  Block.suppressions content ++ lineFormSuppressions content

theorem mem_extractSuppressions {content : Text} {s : Suppression} :
    s ∈ extractSuppressions content ↔
      s ∈ Block.suppressions content ∨ s ∈ Qualified.suppressions content ∨
        s ∈ LineComment.suppressions content := by
  simp [extractSuppressions, lineFormSuppressions, mem_stableSort]

end SuppressionAudit

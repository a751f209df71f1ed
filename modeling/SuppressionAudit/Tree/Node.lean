import SuppressionAudit.Text
import SuppressionAudit.Tree.Fault

/-!
# File trees

A tree as a walk meets it: a file, a directory with its entries in the order in which they are
listed, or a symbolic link, which carries what it leads to. A directory may refuse to be listed; its
entries are there all the same. What a link leads to is unfolded when it is asked for, so that a tree
may go round in circles as far as the system follows links. A link that leads nowhere is dead. Two
kinds of entries end the listing that they stand in: a link whose target cannot be looked up, for a
walk that follows it, and an entry that cannot be looked up itself, be it a file, a directory or a link.
-/

namespace SuppressionAudit

/-- What lies at a path. -/
inductive Node where
  | file
  | directory (fault : Option Fault) (entries : List (Text × Node))
  | link (target : Unit → Node)
  | deadLink
  | barredLink (fault : Fault)
  | unreachable (fault : Fault)

namespace Node

instance : Inhabited Node := ⟨.deadLink⟩

def entry? (name : Text) : List (Text × Node) → Option Node
  | [] => none
  | (n, node) :: entries => if n = name then some node else entry? name entries

end Node

end SuppressionAudit

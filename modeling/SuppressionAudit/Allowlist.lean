import SuppressionAudit.FieldProblem
import SuppressionAudit.Glob.Pattern
import SuppressionAudit.Json.Reader
import SuppressionAudit.Notice
import SuppressionAudit.Text.LineBreak
import SuppressionAudit.Text.Utf8
import SuppressionAudit.Tree.Project

/-!
# Allowlists

An allowlist names rules and path patterns that are never reported. It is read from a JSON object
with two lists, each of which may be absent or null and goes by two names; the short one wins. A
file that cannot be read as such an object counts as an empty allowlist and gives a warning, so that
no part of a broken allowlist is in force. A missing file is an empty allowlist without a word. Two
things are errors: a path that the system refuses to look up, be it too long or in a directory that
refuses lookups, and an object that is too deep to be read.
-/

namespace SuppressionAudit

/-- What is never reported. -/
structure Allowlist where
  exemptRules : List Text
  exemptPaths : List Text
deriving DecidableEq, Repr

namespace Allowlist

def empty : Allowlist := ⟨[], []⟩

def exemptsRule (a : Allowlist) (rule : Text) : Bool := a.exemptRules.contains rule

/-- Whether nothing in the file at a relative path is reported. -/
def exemptsPath (a : Allowlist) (path : Text) : Bool := Glob.anyAccepts a.exemptPaths path

/-! ### Reading a record -/

/-- The elements of a list in their first occurrences. -/
def distinct : List Text → List Text
  | [] => []
  | x :: xs => x :: (distinct xs).filter fun y => y != x

/-- The name that a record uses for a field with a short and a long name. -/
def fieldName (record : Json) (short long : Text) : Text :=
  if (record.get? short).isSome then short
  else if (record.get? long).isSome then long
  else short

/-- The texts of a list, the first of them at an index, and its elements that are no texts. -/
def textsFrom (field : Text) (index : Nat) : List Json → List Text × List FieldProblem
  | [] => ([], [])
  | item :: items =>
    let rest := textsFrom field (index + 1) items
    match item with
    | .str s => (s :: rest.1, rest.2)
    | _ => (rest.1, ⟨field, some index, .notText⟩ :: rest.2)

/-- The texts of a field that is a list, null or absent, and what does not fit in it. -/
def textsOf (record : Json) (field : Text) (fault : FieldFault) : List Text × List FieldProblem :=
  match record.get? field with
  | none => ([], [])
  | some .null => ([], [])
  | some (.arr items) => textsFrom field 0 items
  | some _ => ([], [⟨field, none, fault⟩])

/-- The allowlist that a record describes, or all that does not fit in it. -/
def ofJson (record : Json) : Except (List FieldProblem) Allowlist :=
  let rules := textsOf record (fieldName record "rules".toList "exempt_rules".toList) .notSet
  let paths := textsOf record (fieldName record "paths".toList "exempt_path_patterns".toList) .notList
  match rules.2 ++ paths.2 with
  | [] => .ok ⟨distinct rules.1, paths.1⟩
  | problems => .error problems

/-! ### Reading a file -/

def defaultName : Text := ".eslint-disable-allowlist.json".toList

/-- Why an allowlist is not even empty: its path is refused, or its object is too deep. -/
inductive LoadFault where
  | pathRefused (fault : Fault)
  | tooDeep
deriving DecidableEq, Repr

/-- The document in the bytes of a file, when they are text and JSON. -/
def document (limit : Nat) (bytes : List UInt8) : Except Json.ReadFault Json :=
  match Utf8.decode? bytes with
  | some s => Json.read (Text.unifyLineBreaks s) limit
  | none => .error .malformed

def ofDocument (path : Text) : Json → Allowlist × Notice
  | .obj fields =>
    match ofJson (.obj fields) with
    | .ok a => (a, .allowlistLoaded path a.exemptRules.length a.exemptPaths.length)
    | .error problems => (empty, .allowlistInvalid path problems.length)
  | _ => (empty, .allowlistNotObject path)

/-- The allowlist in what reading a file gave, and the notice about it. -/
def ofContent (limit : Nat) (path : Text) (content : Except Fault (List UInt8)) :
    Except LoadFault (Allowlist × Notice) :=
  match content with
  | .error _ => .ok (empty, .allowlistUnreadable path)
  | .ok bytes =>
    match document limit bytes with
    | .ok record => .ok (ofDocument path record)
    | .error .malformed => .ok (empty, .allowlistUnreadable path)
    | .error .tooDeep => .error .tooDeep

def load (project : Project) (name : Text) (limit : Nat := Json.nestingLimit) :
    Except LoadFault (Allowlist × List Notice) :=
  let path := project.root.join (Path.ofText name)
  if Path.hasNul path.parts then .ok (empty, [])
  else
    match project.disk.look path.parts with
    | .error fault => .error (.pathRefused fault)
    | .ok item =>
      if Disk.isFile item then
        (ofContent limit path.toText (project.disk.read path.parts)).map fun loaded =>
          (loaded.1, [loaded.2])
      else .ok (empty, [])

end Allowlist

end SuppressionAudit

import SuppressionAudit.Command.RecordedDisk
import SuppressionAudit.Command.Run
import SuppressionAudit.Json.Writer

/-!
# Recordings

A recording describes, in JSON, what a run of the command finds. The tree is given by its files, each
with its text or its bytes in hexadecimal digits, by further directories, symbolic links, and the
files and directories that refuse access. The linter is given by the way its processes end, one after
the other; a process beyond the list, or one for which nothing is given, answers for each path from
the recorded rules.
-/

namespace SuppressionAudit

namespace Recording

/-! ### Reading records -/

/-- The fields of an object in a field of a record; no fields if there is none. -/
def fieldsOf (record : Json) (name : Text) : List (Text × Json) :=
  match record.get? name with
  | some (.obj fields) => fields
  | _ => []

/-- The items of a list in a field of a record; no items if there is none. -/
def itemsOf (record : Json) (name : Text) : List Json :=
  ((record.get? name).bind Json.items?).getD []

/-- The texts of a list in a field of a record. -/
def textsOf (record : Json) (name : Text) : List Text := (itemsOf record name).filterMap Json.text?

def ofHexadecimal (s : Text) : Nat :=
  s.foldl (fun n c => 16 * n + ("0123456789abcdef".toList).idxOf c.toLower) 0

/-- The bytes that pairs of hexadecimal digits write; there may be blanks between the pairs. -/
def bytesOf : Text → List UInt8
  | [] => []
  | [_] => []
  | a :: b :: s =>
    if a.isWhitespace then bytesOf (b :: s)
    else UInt8.ofNat (ofHexadecimal [a, b]) :: bytesOf s

/-- The content of a file: a text, or digits for its bytes. -/
def contentOf : Json → List UInt8
  | .str s => Utf8.encode s
  | record => bytesOf (((record.get? "hex".toList).bind Json.text?).getD [])

/-! ### The disk -/

/-- The fault that a word names. -/
def faultOf (word : Text) : Fault :=
  if word = "EIO".toList then .inputOutput else .permissionDenied

def disk (root : Path) (record : Json) : Disk :=
  let place := fun (name : Text) => (root.join (Path.ofText name)).parts
  let make := fun (d : Disk) (parts : List Text) => (d.makeDirectory parts).disk
  let d := make Disk.empty root.parts
  let d := (textsOf record "dirs".toList).foldl (fun d name => make d (place name)) d
  let d := (fieldsOf record "files".toList).foldl
    (fun d field => d.place (place field.1) (.file (.ok (contentOf field.2)))) d
  let d := (fieldsOf record "symlinks".toList).foldl
    (fun d field => d.place (place field.1) (.link (field.2.text?.getD []))) d
  let d := (textsOf record "deny_files".toList).foldl
    (fun d name => d.refuse (place name) .permissionDenied) d
  (fieldsOf record "deny_dirs".toList).foldl
    (fun d field => d.refuse (place field.1) (faultOf (field.2.text?.getD []))) d

/-! ### The linter -/

/-- The text of a path below a base, or of the whole path if it is not. -/
def relativeTo (base path : Path) : Text :=
  match base.partsBelow? path with
  | some parts => Path.relativeText parts
  | none => path.toText

/-- The rules for a file: its own ones if there are any, or else those for every file. -/
def rulesFor (record : Json) (name : Text) : Json :=
  match Json.lookup name (fieldsOf record "per_file".toList) with
  | some rules => rules
  | none => .obj (fieldsOf record "rules".toList)

def isIgnored (record : Json) (name : Text) : Bool :=
  (textsOf record "ignored".toList).contains name

/-- The answer for a file from the recorded rules. -/
def answerFor (record : Json) (name : Text) : Json :=
  let ignored := isIgnored record name
  .obj [("ignored".toList, .bool ignored),
    ("rules".toList, if ignored then .obj [] else rulesFor record name)]

/-- The way a process ends that answers from the recorded rules. -/
def answering (record : Json) (base : Path) (paths : List Path) : ProcessOutcome :=
  .exited 0 (some (Json.write (.arr (paths.map fun path => answerFor record (relativeTo base path)))))
    none

/-- The way a process ends for which something is given. -/
def outcomeOf? (response : Json) : Option ProcessOutcome :=
  let given := fun (name : Text) => response.get? name
  if (given "missing".toList).isSome then some (.notStarted .notFound)
  else
    let code := given "returncode".toList
    let output := given "stdout".toList
    let errors := given "stderr".toList
    if code.isSome || output.isSome || errors.isSome then
      some (.exited ((code.bind Json.int?).getD 0) (output.bind Json.text?) (errors.bind Json.text?))
    else none

/-- How the processes of a record end, when their paths lie below a base. -/
def behaviour (record : Json) (base : Path) : ProcessBehaviour :=
  { outcome := fun started paths =>
      match ((itemsOf record "responses".toList)[started]?).bind outcomeOf? with
      | some outcome => outcome
      | none => answering record base paths
    nestingLimit := Json.nestingLimit }

/-- What a recording with a tree, a linter and a width of the console describes; the directory of the
tree is the one the command is run in. -/
def surroundings (root : Path) (record : Json) : Surroundings :=
  { disk := disk root record
    directory := root
    behaviour := behaviour ((record.get? "bridge".toList).getD .null) root
    width := (((record.get? "width".toList).bind Json.int?).getD 100).toNat }

end Recording

end SuppressionAudit

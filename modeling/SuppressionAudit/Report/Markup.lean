import SuppressionAudit.Console.StyledText
import SuppressionAudit.Report.ActionParameter
import SuppressionAudit.Report.StyleName
import SuppressionAudit.Text.EmojiCode

/-!
# Markup

Text for the console may hold tags. A tag is an opening bracket, a small letter or one of `#/@`, any
characters but an opening bracket, and a closing bracket. Of the backslashes before a tag each pair
is one backslash, and an odd one makes the tag literal; elsewhere a backslash before an opening
bracket is dropped. In the text between two tags codes stand for emoji. A tag opens a style until it
is closed by name or by a tag that closes the latest one; what is still open at the end lasts up to
there. Closing what is not open is an error, which tells the offset of the tag. What follows an equals
sign in a tag is its parameter; that of an action is read when the action is closed.
-/

namespace SuppressionAudit

/-- Why marked-up text cannot be shown: a closing tag without anything to close, with the text between
its brackets and its offset, a parameter of an action that cannot be read, or a malformed colour. -/
inductive MarkupError where
  | unmatched (body : Text) (position : Nat)
  | nothingOpen (position : Nat)
  | action (parameter : Text) (e : ActionError)
  | malformedColor
deriving DecidableEq, Repr

namespace MarkupError

def message : MarkupError → Text
  | .unmatched body position =>
    "closing tag '[".toList ++ body ++ "]' at position ".toList ++ Text.ofNat position
      ++ " doesn't match any open tag".toList
  | .nothingOpen position =>
    "closing tag '[/]' at position ".toList ++ Text.ofNat position
      ++ " has nothing to close".toList
  | .action parameter e => "error parsing ".toList ++ e.message (Text.quoted parameter)
  | .malformedColor => "malformed colour".toList

end MarkupError

namespace Markup

/-! ### Reading tags -/

/-- A piece of marked-up text: characters between tags, a tag that is meant literally or backslashes
before one, or a tag. -/
inductive Piece where
  | run (s : Text)
  | literal (s : Text)
  | tag (body : Text) (position : Nat)
deriving DecidableEq, Repr

def beginsTag (c : Char) : Bool := ('a' ≤ c && c ≤ 'z') || c == '#' || c == '/' || c == '@'

def tagBody? : Text → Option Text
  | c :: s =>
    if beginsTag c then
      match s.dropWhile fun d => d != '[' && d != ']' with
      | ']' :: _ => some (c :: s.takeWhile fun d => d != '[' && d != ']')
      | _ => none
    else none
  | [] => none

/-- The number of backslashes in front of a text that go before a tag, and the body of the tag. -/
def tagAt? (s : Text) : Option (Nat × Text) :=
  match s.dropWhile fun c => c == '\\' with
  | '[' :: rest => (tagBody? rest).map fun body => ((s.takeWhile fun c => c == '\\').length, body)
  | _ => none

/-- The backslashes that are left of those before a tag. -/
def backslashes (n : Nat) : List Piece :=
  if n = 0 then [] else [.literal (List.replicate n '\\')]

def addChar (c : Char) : List Piece → List Piece
  | .run s :: pieces => .run (c :: s) :: pieces
  | pieces => .run [c] :: pieces

/-- The pieces of a text at an offset, whose first `inside` characters belong to a tag that was read. -/
def piecesAfter : Nat → Nat → Text → List Piece
  | _, _, [] => []
  | position, inside + 1, _ :: s => piecesAfter (position + 1) inside s
  | position, 0, c :: s =>
    match tagAt? (c :: s) with
    | none => addChar c (piecesAfter (position + 1) 0 s)
    | some (slashes, body) =>
      let piece :=
        if slashes % 2 = 1 then Piece.literal ('[' :: body ++ [']'])
        else .tag body (position + slashes)
      backslashes (slashes / 2) ++ piece
        :: piecesAfter (position + 1) (slashes + body.length + 1) s

def pieces (s : Text) : List Piece := piecesAfter 0 0 s

/-! ### Open tags -/

/-- A tag that was opened: where, its name in the normal form, and its parameter. -/
structure OpenTag where
  start : Nat
  name : Text
  parameter : Option Text
deriving DecidableEq, Repr

namespace OpenTag

/-- Whether a tag stands for an action. -/
def isAction (tag : OpenTag) : Bool := tag.name.head? == some '@'

/-- The style that a tag asks for. -/
def style (tag : OpenTag) : Text :=
  match tag.parameter with
  | some parameter => tag.name ++ [' '] ++ parameter
  | none => tag.name

/-- The error of a tag when it is closed, if it is an action with a parameter. -/
def closingError? (tag : OpenTag) : Option MarkupError :=
  if tag.isAction then
    (tag.parameter.filter fun s => !s.isEmpty).bind fun parameter =>
      (ActionError.ofParameter? parameter).map (MarkupError.action parameter)
  else none

/-- The span of a tag that is closed. -/
def closed (stop : Nat) (tag : OpenTag) : Span :=
  ⟨tag.start, stop, if tag.isAction then none else some tag.style⟩

/-- The span of a tag that is never closed; an action has then no effect but its style. -/
def unclosed (stop : Nat) (tag : OpenTag) : Span := ⟨tag.start, stop, some tag.style⟩

end OpenTag

/-- Takes the latest open tag of a name off the open tags, latest first. -/
def closeNamed? (name : Text) : List OpenTag → Option (OpenTag × List OpenTag)
  | [] => none
  | tag :: rest =>
    if tag.name = name then some (tag, rest)
    else (closeNamed? name rest).map fun p => (p.1, tag :: p.2)

/-- Takes the latest open tag off, or the latest one of a name. -/
def close (name body : Text) (position : Nat) (opened : List OpenTag) :
    Except MarkupError (OpenTag × List OpenTag) :=
  if name.isEmpty then
    match opened with
    | [] => .error (.nothingOpen position)
    | tag :: rest => .ok (tag, rest)
  else
    match StyleName.normalize? name with
    | none => .error .malformedColor
    | some name =>
      match closeNamed? name opened with
      | none => .error (.unmatched body position)
      | some closed => .ok closed

/-! ### Rendering -/

/-- How far marked-up text was read: the text with the styles that were closed, and the open tags. -/
structure Reading where
  shown : StyledText
  opened : List OpenTag

namespace Reading

def initial : Reading := ⟨.plain [], []⟩

def applyTag (r : Reading) (body : Text) (position : Nat) : Except MarkupError Reading :=
  match Text.cutAt '=' body with
  | ('/' :: name, _) =>
    match close (Text.trim name) body position r.opened with
    | .error e => .error e
    | .ok (tag, rest) =>
      match tag.closingError? with
      | some e => .error e
      | none =>
        let span := tag.closed r.shown.text.length
        .ok ⟨{ r.shown with spans := r.shown.spans ++ [span] }, rest⟩
  | (name, parameter) =>
    match StyleName.normalize? name with
    | some name => .ok { r with opened := ⟨r.shown.text.length, name, parameter⟩ :: r.opened }
    | none => .error .malformedColor

/-- A text where a backslash before an opening bracket is dropped. -/
def dropEscapes : Text → Text
  | [] => []
  | c :: s =>
    if c = '\\' ∧ s.head? = some '[' then dropEscapes s else c :: dropEscapes s

def addText (r : Reading) (s : Text) : Reading :=
  let shown := Text.dropControls (Emoji.replaceCodes (dropEscapes s))
  { r with shown := { r.shown with text := r.shown.text ++ shown } }

def addPieces : Reading → List Piece → Except MarkupError Reading
  | r, [] => .ok r
  | r, .run s :: pieces => addPieces (r.addText s) pieces
  | r, .literal s :: pieces => addPieces (r.addText s) pieces
  | r, .tag body position :: pieces =>
    match r.applyTag body position with
    | .error e => .error e
    | .ok r => addPieces r pieces

/-- The text with all its styles. -/
def result (r : Reading) : StyledText :=
  let length := r.shown.text.length
  { r.shown with spans := r.shown.spans ++ r.opened.map (OpenTag.unclosed length) }

end Reading

/-- The styled text that marked-up text stands for. -/
def render (s : Text) : Except MarkupError StyledText :=
  (Reading.initial.addPieces (pieces s)).map Reading.result

def isMalformed (style : Text) : Bool :=
  match StyleName.read style with
  | .error .malformedColor => true
  | _ => false

/-- The error in the styles of lines that are about to be printed, if there is one. -/
def styleError? (lines : List StyledText) : Option MarkupError :=
  if lines.any fun line => line.spans.any fun span => span.style.any isMalformed then
    some .malformedColor
  else none

/-! ### Escaping -/

/-- A text whose tags are escaped, when its first `inside` characters belong to one that was. -/
def escapeAfter : Nat → Text → Text
  | _, [] => []
  | inside + 1, c :: s => c :: escapeAfter inside s
  | 0, c :: s =>
    match tagAt? (c :: s) with
    | none => c :: escapeAfter 0 s
    | some (slashes, body) =>
      List.replicate (slashes + 1) '\\' ++ c :: escapeAfter (slashes + body.length + 1) s

/-- A text that renders as itself: its tags are escaped, and so is a single backslash at its end. -/
def escape (s : Text) : Text :=
  let escaped := escapeAfter 0 s
  if Text.endsWith escaped ['\\'] && !Text.endsWith escaped ['\\', '\\'] then escaped ++ ['\\']
  else escaped

end Markup

end SuppressionAudit

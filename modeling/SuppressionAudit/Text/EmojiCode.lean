import SuppressionAudit.Text.Blank
import SuppressionAudit.Text.EmojiTable
import SuppressionAudit.Text.Lowercase

/-!
# Emoji codes

The name of an emoji between two colons stands for the emoji; after the name a dash and the word
`emoji` or `text` ask for one of its two styles. The case of a name does not count. What is between
the colons holds no blank and no colon; a name that no emoji has stays as it is written, with its
colons. Main statement: a text without colons stays as it is.
-/

namespace SuppressionAudit

namespace Emoji

def hexDigit (c : Char) : Nat :=
  if c.toNat ≤ '9'.toNat then c.toNat - '0'.toNat else c.toNat - 'A'.toNat + 10

def charOfHex (s : Text) : Char := Char.ofNat (s.foldl (fun n c => 16 * n + hexDigit c) 0)

def namesIn (record : Text) : List (Text × Text) :=
  match Text.words record with
  | [] => []
  | codes :: names => names.map fun name => (name, (Text.splitOn '-' codes).map charOfHex)

def table : List (Text × Text) := (Text.splitOn ';' records.toList).flatMap namesIn

def named? (name : Text) : Option Text := table.lookup (Text.lowercase name)

/-- The marks that ask for a style of an emoji, after the words for them. -/
def styleMarks : List (Text × Char) :=
  [("-emoji".toList, '\uFE0F'), ("-text".toList, '\uFE0E')]

/-- The emoji of what is between two colons. -/
def ofCode? (code : Text) : Option Text :=
  match styleMarks.find? fun entry => Text.endsWith code entry.1 with
  | some (word, mark) =>
    (named? (code.take (code.length - word.length))).map fun emoji => emoji ++ [mark]
  | none => named? code

/-- The code in front of a text that begins after a colon, if another colon ends it. -/
def codeAt? (s : Text) : Option Text :=
  let inCode := fun c => c != ':' && !isBlank c
  match s.dropWhile inCode with
  | ':' :: _ => some (s.takeWhile inCode)
  | _ => none

/-- A text with its codes replaced, when its first `done` characters belong to one that was. -/
def replaceAfter : Nat → Text → Text
  | _, [] => []
  | done + 1, _ :: s => replaceAfter done s
  | 0, c :: s =>
    if c = ':' then
      match codeAt? s with
      | some code =>
        (ofCode? code).getD ([':'] ++ code ++ [':']) ++ replaceAfter (code.length + 1) s
      | none => c :: replaceAfter 0 s
    else c :: replaceAfter 0 s

def replaceCodes (s : Text) : Text := replaceAfter 0 s

theorem replaceCodes_eq_self {s : Text} (h : ':' ∉ s) : replaceCodes s = s := by
  unfold replaceCodes
  induction s with
  | nil => rfl
  | cons c s ih =>
    have hc : c ≠ ':' := fun e => h (by simp [e])
    rw [replaceAfter, if_neg hc, ih fun hs => h (List.mem_cons_of_mem c hs)]

end Emoji

end SuppressionAudit

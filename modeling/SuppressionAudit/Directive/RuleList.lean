import SuppressionAudit.Text.Blank

/-!
# Rule lists

A directive names rules, separated by commas, and may end in a reason after two dashes. Names are
trimmed and blank entries dropped; each name keeps the offset at which it is written. The reason is
the trimmed text after the first two dashes, and a blank one is none at all.

A rule list has a canonical text: its names joined by a comma and a blank, then the reason.
-/

namespace SuppressionAudit

/-- A rule as a directive names it, with its offset in the list. -/
structure RuleMention where
  name : Text
  offset : Nat
deriving DecidableEq, Repr

structure RuleList where
  rules : List RuleMention
  justification : Option Text
deriving DecidableEq, Repr

namespace RuleList

/-- What separates the rules from the reason. -/
def separator : Text := ['-', '-']

/-- The rules among entries that lie between commas, the first of them at offset `start`. -/
def mentionsFrom (start : Nat) : List Text → List RuleMention
  | [] => []
  | entry :: entries =>
    let rest := mentionsFrom (start + entry.length + 1) entries
    let name := Text.trim entry
    if name.isEmpty then rest else ⟨name, start + Text.leadingBlanks entry⟩ :: rest

def mentions (s : Text) : List RuleMention := mentionsFrom 0 (Text.splitOn ',' s)

/-- The reason in the text after the two dashes. -/
def reason? (s : Text) : Option Text :=
  let trimmed := Text.trim s
  if trimmed.isEmpty then none else some trimmed

def parse (body : Text) : RuleList :=
  match Text.splitAtFirst? separator body with
  | none => ⟨mentions body, none⟩
  | some (rules, reason) => ⟨mentions (Text.trimEnd rules), reason? reason⟩

def names (list : RuleList) : List Text := list.rules.map RuleMention.name

def render (names : List Text) (justification : Option Text) : Text :=
  Text.joinWith [',', ' '] names ++
    match justification with
    | none => []
    | some reason => [' '] ++ separator ++ [' '] ++ reason

end RuleList

end SuppressionAudit

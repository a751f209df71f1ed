import SuppressionAudit.Json

/-!
# Severities

How strongly the linter enforces a rule in a file. The linter gives, for each rule, an entry: a bare
token, or a list of a token and the rule's options. Only the tokens it documents mean something;
every other one, and a rule without an entry, is off. A truth value is no number, and a number
written with a fraction or an exponent is none of the three.
-/

namespace SuppressionAudit

inductive Severity where
  | off
  | warning
  | error
deriving DecidableEq, Repr

inductive RuleEntry where
  | bare (token : Json)
  | withOptions (token : Json) (options : List Json)

/-- The linter's effective rules for a file. -/
abbrev Rules := List (Text × Json)

namespace RuleEntry

/-- The entry that a value stands for; null and the empty list stand for none. -/
def ofJson? : Json → Option RuleEntry
  | .null => none
  | .arr [] => none
  | .arr (token :: options) => some (.withOptions token options)
  | token => some (.bare token)

def token : RuleEntry → Json
  | .bare token => token
  | .withOptions token _ => token

end RuleEntry

namespace Severity

def name : Severity → Text
  | .off => "off".toList
  | .warning => "warning".toList
  | .error => "error".toList

def ofToken : Json → Severity
  | .str s =>
    if s = "warn".toList then .warning else if s = "error".toList then .error else .off
  | .int n => if n = 1 then .warning else if n = 2 then .error else .off
  | _ => .off

def ofEntry : Option RuleEntry → Severity
  | none => .off
  | some entry => ofToken entry.token

def ofRule (rules : Rules) (rule : Text) : Severity :=
  match Json.lookup rule rules with
  | none => .off
  | some value => ofEntry (RuleEntry.ofJson? value)

end Severity

end SuppressionAudit

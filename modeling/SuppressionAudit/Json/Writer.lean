import SuppressionAudit.Json
import SuppressionAudit.Text.Quoted

/-!
# Writing JSON

Values are written on one line, with a blank after each comma and colon. Strings are ASCII: quotes,
backslashes and five controls have short escapes, and all other characters outside the visible
ASCII range are written as code units, those beyond the basic plane as a surrogate pair.
-/

namespace SuppressionAudit

namespace Json

/-- A code unit as an escape. -/
def unitEscape (n : Nat) : Text := '\\' :: 'u' :: Text.hexadecimal 4 n

def writeChar (c : Char) : Text :=
  if c = '"' then ['\\', '"']
  else if c = '\\' then ['\\', '\\']
  else if c = '\n' then ['\\', 'n']
  else if c = '\r' then ['\\', 'r']
  else if c = '\t' then ['\\', 't']
  else if c = '\x08' then ['\\', 'b']
  else if c = '\x0C' then ['\\', 'f']
  else if 0x20 ≤ c.toNat ∧ c.toNat < 0x7F then [c]
  else if c.toNat < 0x10000 then unitEscape c.toNat
  else
    let n := c.toNat - 0x10000
    unitEscape (0xD800 + n / 0x400) ++ unitEscape (0xDC00 + n % 0x400)

def writeString (s : Text) : Text := '"' :: s.flatMap writeChar ++ ['"']

def writeInt (n : Int) : Text :=
  if n < 0 then '-' :: Text.ofNat n.natAbs else Text.ofNat n.natAbs

mutual

def write : Json → Text
  | .null => "null".toList
  | .bool true => "true".toList
  | .bool false => "false".toList
  | .int n => writeInt n
  | .real r => r.text
  | .str s => writeString s
  | .arr items => '[' :: writeItems items ++ [']']
  | .obj fields => '\x7b' :: writeFields fields ++ ['\x7d']

def writeItems : List Json → Text
  | [] => []
  | [v] => write v
  | v :: w :: rest => write v ++ [',', ' '] ++ writeItems (w :: rest)

def writeFields : List (Text × Json) → Text
  | [] => []
  | [(k, v)] => writeString k ++ [':', ' '] ++ write v
  | (k, v) :: w :: rest => writeString k ++ [':', ' '] ++ write v ++ [',', ' '] ++ writeFields (w :: rest)

end

end Json

end SuppressionAudit

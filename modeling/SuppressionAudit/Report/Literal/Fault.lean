import SuppressionAudit.Text.Quoted

/-!
# Faults in literals

Why a text is no literal. Most faults are faults of the notation: of the tokens, of the escapes in a
quoted text, of the fields in a formatted text, or of the order of the tokens. The others are faults of
the value that is written, or of a text that is too large to be read.
-/

namespace SuppressionAudit

namespace Literal

inductive EscapeFault where
  | shortHexadecimal
  | shortUnicode
  | shortLongUnicode
  | beyondUnicode
  | nameMissing
  | nameUnknown
deriving DecidableEq, Repr

def EscapeFault.wording : EscapeFault → String
  | .shortHexadecimal => "truncated \\xXX escape"
  | .shortUnicode => "truncated \\uXXXX escape"
  | .shortLongUnicode => "truncated \\UXXXXXXXX escape"
  | .beyondUnicode => "illegal Unicode character"
  | .nameMissing => "malformed \\N character escape"
  | .nameUnknown => "unknown Unicode character name"

inductive FieldFault where
  | loneBrace
  | tooDeep
  | backslash
  | comment
  | unmatched (bracket : Char)
  | mismatched (closing opening : Char)
  | tooManyBrackets
  | unterminatedText
  | unclosed
  | empty
  | emptyBefore (mark : Char)
  | conversion
deriving DecidableEq, Repr

def quote (c : Char) : Text := ['\'', c, '\'']

/-- The wording of a fault of a closing bracket that does not fit the opened one. -/
def mismatch (closing opening : Char) : Text :=
  "closing parenthesis ".toList ++ quote closing ++ " does not match opening parenthesis ".toList
    ++ quote opening

def FieldFault.wording : FieldFault → Text
  | .loneBrace => "single '\x7D' is not allowed".toList
  | .tooDeep => "expressions nested too deeply".toList
  | .backslash => "expression part cannot include a backslash".toList
  | .comment => "expression part cannot include '#'".toList
  | .unmatched bracket => "unmatched ".toList ++ quote bracket
  | .mismatched closing opening => mismatch closing opening
  | .tooManyBrackets => "too many nested parenthesis".toList
  | .unterminatedText => "unterminated string".toList
  | .unclosed => "expecting '\x7D'".toList
  | .empty => "empty expression not allowed".toList
  | .emptyBefore mark => "expression required before ".toList ++ quote mark
  | .conversion => "invalid conversion character: expected 's', 'r', or 'a'".toList

/-- Whether the wording of a fault in a field goes on with what a formatted text is called, without a
colon between them. -/
def FieldFault.isContinued : FieldFault → Bool
  | .backslash | .comment => true
  | _ => false

/-- A fault of the order of the tokens. -/
inductive OrderFault where
  | unexpectedIndent
  | unexpectedUnindent
  | invalidSyntax
  | forgottenComma
  | missingParentheses (word : Text)
  | missingElse
  | nameAssigned
  | assigned (what : String)
  | targetAssigned (what : String)
  | assignmentExpression (what : String)
  | argumentAssigned
  | unpackingAfterNamed
  | positionalAfterNamed
  | positionalAfterUnpacking
  | bareGenerator
  | starredTarget
  | bareTarget
  | unpackingTarget
  | starredGroup
  | doubleStarredGroup
  | starredValue
  | valueMissing
  | colonMissing
  | defaultMissing
  | defaultBeforeNone
  | bracketedParameters
  | nothingBeforeSlash
  | secondSlash
  | slashAfterStar
  | commaAfterSlash
  | nothingAfterStar
  | defaultOfStar
  | secondStar
  | defaultOfDoubleStar
  | parameterAfterDoubleStar
  | byteTextNotAscii
  | mixedTexts
deriving DecidableEq, Repr

def OrderFault.wording : OrderFault → Text
  | .unexpectedIndent => "unexpected indent".toList
  | .unexpectedUnindent => "unexpected unindent".toList
  | .invalidSyntax => "invalid syntax".toList
  | .forgottenComma => "invalid syntax. Perhaps you forgot a comma?".toList
  | .missingParentheses word =>
    "Missing parentheses in call to '".toList ++ word ++ "'. Did you mean ".toList ++ word
      ++ "(...)?".toList
  | .missingElse => "expected 'else' after 'if' expression".toList
  | .nameAssigned => "invalid syntax. Maybe you meant '==' or ':=' instead of '='?".toList
  | .assigned what =>
    "cannot assign to ".toList ++ what.toList
      ++ " here. Maybe you meant '==' instead of '='?".toList
  | .targetAssigned what => "cannot assign to ".toList ++ what.toList
  | .assignmentExpression what => "cannot use assignment expressions with ".toList ++ what.toList
  | .argumentAssigned =>
    "expression cannot contain assignment, perhaps you meant \"==\"?".toList
  | .unpackingAfterNamed =>
    "iterable argument unpacking follows keyword argument unpacking".toList
  | .positionalAfterNamed => "positional argument follows keyword argument".toList
  | .positionalAfterUnpacking => "positional argument follows keyword argument unpacking".toList
  | .bareGenerator => "Generator expression must be parenthesized".toList
  | .starredTarget => "iterable unpacking cannot be used in comprehension".toList
  | .bareTarget => "did you forget parentheses around the comprehension target?".toList
  | .unpackingTarget => "dict unpacking cannot be used in dict comprehension".toList
  | .starredGroup => "cannot use starred expression here".toList
  | .doubleStarredGroup => "cannot use double starred expression here".toList
  | .starredValue => "cannot use a starred expression in a dictionary value".toList
  | .valueMissing => "expression expected after dictionary key and ':'".toList
  | .colonMissing => "':' expected after dictionary key".toList
  | .defaultMissing => "expected default value expression".toList
  | .defaultBeforeNone => "non-default argument follows default argument".toList
  | .bracketedParameters => "Lambda expression parameters cannot be parenthesized".toList
  | .nothingBeforeSlash => "at least one argument must precede /".toList
  | .secondSlash => "/ may appear only once".toList
  | .slashAfterStar => "/ must be ahead of *".toList
  | .commaAfterSlash => "expected comma between / and *".toList
  | .nothingAfterStar => "named arguments must follow bare *".toList
  | .defaultOfStar => "var-positional argument cannot have default value".toList
  | .secondStar => "* argument may appear only once".toList
  | .defaultOfDoubleStar => "var-keyword argument cannot have default value".toList
  | .parameterAfterDoubleStar => "arguments cannot follow var-keyword argument".toList
  | .byteTextNotAscii => "bytes can only contain ASCII literal characters".toList
  | .mixedTexts => "cannot mix bytes and nonbytes literals".toList

/-- A reason why a text is no literal. -/
inductive Fault where
  | unterminatedText (line : Nat)
  | unterminatedLongText (line : Nat)
  | unmatched (closing : Char)
  | mismatched (closing opening : Char)
  | mismatchedFrom (closing opening : Char) (line : Nat)
  | neverClosed (opening : Char)
  | tooManyBrackets
  | strayBackslash
  | endAfterBackslash
  | strangeCharacter (c : Char)
  | badNumeral (kind : String)
  | badDigit (digit : Char) (kind : String)
  | leadingZeros
  | unevenIndent
  | mixedIndent
  | tooDeepIndent
  | escape (reason : EscapeFault) (first last : Nat)
  | byteEscape (position : Nat)
  | field (reason : FieldFault)
  | order (reason : OrderFault)
  | inField (inner : Fault)
  | zeroCharacter
  | tooDeep
  | tooLarge
  | noValue
  | unpackedEntry
  | unhashable (kind : String)
  | numberTooLarge
deriving DecidableEq, Repr

namespace Fault

/-- Whether a fault is one of the notation. -/
def isSyntactic : Fault → Bool
  | .zeroCharacter | .tooDeep | .tooLarge | .noValue | .unpackedEntry | .unhashable _
  | .numberTooLarge => false
  | _ => true

/-- The code point of a character in capital hexadecimal digits, at least four. -/
def codePoint (c : Char) : Text :=
  let n := c.toNat
  let width := if n < 0x10000 then 4 else if n < 0x100000 then 5 else 6
  "U+".toList ++ (Text.hexadecimal width n).map Char.toUpper

/-- What a formatted text is called in front of a fault in it. -/
def formattedText : Text := "f-string".toList

def message : Fault → Text
  | .unterminatedText line =>
    "unterminated string literal (detected at line ".toList ++ Text.ofNat line ++ [')']
  | .unterminatedLongText line =>
    "unterminated triple-quoted string literal (detected at line ".toList ++ Text.ofNat line
      ++ [')']
  | .unmatched closing => "unmatched ".toList ++ quote closing
  | .mismatched closing opening => mismatch closing opening
  | .mismatchedFrom closing opening line =>
    mismatch closing opening ++ " on line ".toList ++ Text.ofNat line
  | .neverClosed opening => quote opening ++ " was never closed".toList
  | .tooManyBrackets => "too many nested parentheses".toList
  | .strayBackslash => "unexpected character after line continuation character".toList
  | .endAfterBackslash => "unexpected EOF while parsing".toList
  | .strangeCharacter c =>
    if Text.isPrintable c then
      "invalid character ".toList ++ quote c ++ " (".toList ++ codePoint c ++ [')']
    else "invalid non-printable character ".toList ++ codePoint c
  | .badNumeral kind => "invalid ".toList ++ kind.toList ++ " literal".toList
  | .badDigit digit kind =>
    "invalid digit ".toList ++ quote digit ++ " in ".toList ++ kind.toList ++ " literal".toList
  | .leadingZeros =>
    "leading zeros in decimal integer literals are not permitted; ".toList
      ++ "use an 0o prefix for octal integers".toList
  | .unevenIndent => "unindent does not match any outer indentation level".toList
  | .mixedIndent => "inconsistent use of tabs and spaces in indentation".toList
  | .tooDeepIndent => "too many levels of indentation".toList
  | .escape reason first last =>
    "(unicode error) 'unicodeescape' codec can't decode bytes in position ".toList
      ++ Text.ofNat first ++ ['-'] ++ Text.ofNat last ++ ": ".toList ++ reason.wording.toList
  | .byteEscape position =>
    "(value error) invalid \\x escape at position ".toList ++ Text.ofNat position
  | .field reason =>
    formattedText ++ (if reason.isContinued then [' '] else ": ".toList) ++ reason.wording
  | .order reason => reason.wording
  | .inField inner => formattedText ++ ": ".toList ++ inner.message
  | .zeroCharacter => "source code string cannot contain null bytes".toList
  | .tooDeep => "maximum recursion depth exceeded during ast construction".toList
  | .tooLarge => []
  | .noValue => "malformed node or string".toList
  | .unpackedEntry => "malformed node or string: None".toList
  | .unhashable kind => "unhashable type: '".toList ++ kind.toList ++ ['\'']
  | .numberTooLarge => "int too large to convert to float".toList

end Fault

end Literal

end SuppressionAudit

import SuppressionAudit.Report.Literal.Numeral

/-!
# Tokens of literals

The notation of literals is read token by token: names, numbers, quoted texts and marks. Every opened
bracket is kept until it is closed; a line ends only outside of brackets, and only there the blanks in
front of a line count. Main definition: the tokens of a text up to the first fault, each with the number
of brackets that are open after it and its line. A tag holds no square bracket, so these have no token
of their own.
-/

namespace SuppressionAudit

namespace Literal

/-- A quoted text: its letters in front tell whether it holds bytes, keeps its backslashes or has
fields; its body is what stands between the quotes. -/
structure Quotation where
  bytes : Bool
  raw : Bool
  formatted : Bool
  body : Text
  line : Nat
deriving DecidableEq, Repr

/-- A token. The words with a meaning of their own are marks. -/
inductive Token where
  | name (s : Text)
  | number (n : Numeral)
  | quoted (q : Quotation)
  | mark (s : String)
  | newline
  | indent
  | unindent
  | finish
deriving DecidableEq, Repr

/-- A token with the number of brackets that are open after it, and its line. -/
structure Lexeme where
  token : Token
  depth : Nat
  line : Nat
deriving DecidableEq, Repr

/-- An opened bracket and its line. -/
structure Bracket where
  opening : Char
  line : Nat
deriving DecidableEq, Repr

/-- Why the tokens end: with the text, with a fault of a token, or with a fault of the lines, which
counts only where something is read there. -/
inductive Ending where
  | complete
  | refused (fault : Fault)
  | stopped (fault : Fault)
deriving DecidableEq, Repr

/-- The tokens of a text, why they end, the latest bracket that is open there, and the number of tokens
after which the end of the text has been seen. -/
structure Source where
  lexemes : Array Lexeme
  ending : Ending
  unclosed : Option Bracket
  seenAfter : Nat

/-! ### Quoted texts -/

/-- The body of a text in quotes that ends on its line, what follows it, and the line; or else the line
where its end is missed. -/
def readShort (quote : Char) : Nat → Text → Text → Except Nat (Text × Text × Nat)
  | line, _, [] => .error line
  | line, body, '\\' :: '\n' :: s =>
    if s.isEmpty then .error line else readShort quote (line + 1) ('\n' :: '\\' :: body) s
  | line, body, '\\' :: c :: s => readShort quote line (c :: '\\' :: body) s
  | line, body, c :: s =>
    if c = quote then .ok (body.reverse, s, line)
    else if c = '\n' then .error line
    else readShort quote line (c :: body) s

/-- The body of a text in three quotes, what follows it, and the line; or else the line where its end
is missed. -/
def readLong (quote : Char) : Nat → Text → Text → Except Nat (Text × Text × Nat)
  | line, _, [] => .error line
  | line, body, '\\' :: '\n' :: s =>
    if s.isEmpty then .error line else readLong quote (line + 1) ('\n' :: '\\' :: body) s
  | line, body, '\\' :: c :: s => readLong quote line (c :: '\\' :: body) s
  | line, body, '\n' :: s =>
    if s.isEmpty then .error line else readLong quote (line + 1) ('\n' :: body) s
  | line, body, c :: s =>
    match s with
    | d :: e :: rest =>
      if c = quote ∧ d = quote ∧ e = quote then .ok (body.reverse, rest, line)
      else readLong quote line (c :: body) s
    | _ => readLong quote line (c :: body) s

def quotePrefixes : List Text :=
  [[], ['b'], ['r'], ['u'], ['f'], ['b', 'r'], ['r', 'b'], ['f', 'r'], ['r', 'f']]

/-- The quoted text at the front of a text whose first character is a quote, after letters, and on a
line; with it what follows, and the line there. -/
def readQuoted (letters : Text) (line : Nat) (s : Text) : Except Fault (Token × Text × Nat) :=
  let lower := letters.map Char.toLower
  let token := fun body : Text =>
    Token.quoted ⟨lower.contains 'b', lower.contains 'r', lower.contains 'f', body, line⟩
  match s with
  | quote :: rest =>
    if Text.startsWith rest [quote, quote] then
      match readLong quote line [] (rest.drop 2) with
      | .ok (body, after, last) => .ok (token body, after, last)
      | .error last => .error (.unterminatedLongText last)
    else
      match readShort quote line [] rest with
      | .ok (body, after, last) => .ok (token body, after, last)
      | .error last => .error (.unterminatedText last)
  | [] => .error (.unterminatedText line)

/-! ### Names and marks -/

/-- The words with a meaning of their own. -/
def keywords : List Text :=
  ["False".toList, "None".toList, "True".toList, "and".toList, "as".toList, "assert".toList,
    "async".toList, "await".toList, "break".toList, "class".toList, "continue".toList, "def".toList,
    "del".toList, "elif".toList, "else".toList, "except".toList, "finally".toList, "for".toList,
    "from".toList, "global".toList, "if".toList, "import".toList, "in".toList, "is".toList,
    "lambda".toList, "nonlocal".toList, "not".toList, "or".toList, "pass".toList, "raise".toList,
    "return".toList, "try".toList, "while".toList, "with".toList, "yield".toList]

/-- The first character of a word that may not stand where it does in a name. -/
def strangeIn? : Text → Option Char
  | [] => none
  | c :: s => if Text.beginsName c then s.find? fun d => !Text.continuesName d else some c

def wordToken (word : Text) : Except Fault Token :=
  match strangeIn? word with
  | some c => .error (.strangeCharacter c)
  | none =>
    if keywords.contains word then .ok (.mark (String.ofList word))
    else .ok (.name word)

/-- The marks of more than one character, longer ones first. -/
def longMarks : List String :=
  ["...", "**=", "//=", ">>=", "<<=", "==", "!=", "<=", ">=", "<<", ">>", "**", "//", "->", ":=",
    "+=", "-=", "*=", "/=", "%=", "&=", "|=", "^=", "@=", "<>"]

/-- The mark at the front of a text, and what follows it. -/
def readMark (c : Char) (s : Text) : Except Fault (Token × Text) :=
  match longMarks.find? fun m => Text.startsWith (c :: s) m.toList with
  | some m => .ok (.mark m, (c :: s).drop m.length)
  | none =>
    if Text.isPrintable c then .ok (.mark (String.ofList [c]), s)
    else .error (.strangeCharacter c)

/-- The token at the front of a text that begins with something else than a blank or a bracket; with it
what follows, and the line there. -/
def readToken (line : Nat) (c : Char) (s : Text) : Except Fault (Token × Text × Nat) :=
  if c = '\'' ∨ c = '"' then readQuoted [] line (c :: s)
  else if Numeral.isDecimal c || (c == '.' && s.head?.any Numeral.isDecimal) then
    let r := if c = '.' then Numeral.readFraction .real (c :: s) else Numeral.read (c :: s)
    r.map fun r => (.number r.1, r.2, line)
  else if Numeral.isNameLike c then
    let word := (c :: s).takeWhile Numeral.isNameLike
    let rest := (c :: s).dropWhile Numeral.isNameLike
    let isQuote := rest.head?.any fun q => q == '\'' || q == '"'
    if isQuote && quotePrefixes.contains (word.map Char.toLower) then readQuoted word line rest
    else (wordToken word).map fun token => (token, rest, line)
  else (readMark c s).map fun r => (r.1, r.2, line)

/-! ### Brackets -/

def bracketLimit : Nat := 200

/-- The bracket that closes an opened one. -/
def closingOf (opening : Char) : Char := if opening = '(' then ')' else '\x7D'

def opens (c : Char) : Bool := c == '(' || c == '\x7B'

def closes (c : Char) : Bool := c == ')' || c == '\x7D'

def closeBracket (c : Char) (line : Nat) : List Bracket → Except Fault (List Bracket)
  | [] => .error (.unmatched c)
  | b :: rest =>
    if closingOf b.opening = c then .ok rest
    else if b.line = line then .error (.mismatched c b.opening)
    else .error (.mismatchedFrom c b.opening b.line)

def bracketsAfter (c : Char) (line : Nat) (opened : List Bracket) : Except Fault (List Bracket) :=
  if opens c then
    if bracketLimit ≤ opened.length then .error .tooManyBrackets else .ok (⟨c, line⟩ :: opened)
  else if closes c then closeBracket c line opened
  else .ok opened

/-! ### Lines -/

/-- The fault of a text that ends after a backslash, or where a bracket is open. -/
def endFault : List Bracket → Fault
  | [] => .endAfterBackslash
  | b :: _ => .neverClosed b.opening

/-- How far a line is indented: with tabs that reach to the next eighth column, and with tabs of one
column. -/
structure Indent where
  wide : Nat
  narrow : Nat
deriving DecidableEq, Repr

def indentLimit : Nat := 100

/-- What follows the blanks in front of a line, with its indent and its line. A backslash goes on with
the next line, and the columns before the first one count for the indent. -/
def readIndent (opened : List Bracket) :
    Indent → Nat → Nat → Text → Except Fault (Indent × Nat × Text)
  | at_, held, line, ' ' :: s => readIndent opened ⟨at_.wide + 1, at_.narrow + 1⟩ held line s
  | at_, held, line, '\t' :: s =>
    readIndent opened ⟨(at_.wide / 8 + 1) * 8, at_.narrow + 1⟩ held line s
  | _, held, line, '\x0C' :: s => readIndent opened ⟨0, 0⟩ held line s
  | at_, held, line, '\\' :: '\n' :: s =>
    if s.isEmpty then .error (endFault opened)
    else readIndent opened at_ (if held = 0 then at_.wide else held) (line + 1) s
  | at_, held, line, s =>
    match s with
    | '\\' :: _ => .error .strayBackslash
    | _ => .ok (if held = 0 then at_ else ⟨held, held⟩, line, s)

/-- The open indents without those that are deeper than a line. -/
def unindentTo (at_ : Indent) (open_ : List Indent) : List Indent :=
  open_.dropWhile fun i => at_.wide < i.wide

/-- The open indents after a line, and the tokens for the change; the outermost one is not listed. -/
def changeIndent (at_ : Indent) (open_ : List Indent) : Except Fault (List Indent × List Token) :=
  let current := open_.head?.getD ⟨0, 0⟩
  if at_.wide = current.wide then
    if at_.narrow = current.narrow then .ok (open_, []) else .error .mixedIndent
  else if current.wide < at_.wide then
    if indentLimit ≤ open_.length + 1 then .error .tooDeepIndent
    else if at_.narrow ≤ current.narrow then .error .mixedIndent
    else .ok (at_ :: open_, [.indent])
  else
    let left := unindentTo at_ open_
    let outer := left.head?.getD ⟨0, 0⟩
    if outer.wide ≠ at_.wide then .error .unevenIndent
    else if outer.narrow ≠ at_.narrow then .error .mixedIndent
    else .ok (left, List.replicate (open_.length - left.length) .unindent)

/-! ### All tokens -/

/-- What the tokens so far leave open: the line, the brackets, the indents, whether a line begins, and
whether the end of the text has been seen. -/
structure Place where
  line : Nat
  opened : List Bracket
  indents : List Indent
  isFresh : Bool
  isEndSeen : Bool

/-- Whether a token shows where it ends: a quoted text, and a mark that is as long as marks are. -/
def Token.isClosed : Token → Bool
  | .quoted _ => true
  | .mark s => longMarks.contains s && s.length == 3
  | _ => false

/-- The tokens that are read, latest first, end as they do. -/
def endTokens (lexemes : List Lexeme) (ending : Ending) (place : Place) : Source :=
  let count := if place.isEndSeen then lexemes.length else lexemes.length + 1
  match ending with
  | .complete =>
    ⟨(⟨.finish, 0, place.line⟩ :: lexemes).reverse.toArray, ending, none, count⟩
  | _ => ⟨lexemes.reverse.toArray, ending, place.opened.head?, count⟩

/-- The tokens of a text after those that are read, latest first. -/
def tokensFrom : Nat → Place → List Lexeme → Text → Source
  | 0, place, done, _ => endTokens done (.stopped (endFault place.opened)) place
  | fuel + 1, place, done, s =>
    let here := fun token : Token => Lexeme.mk token place.opened.length place.line
    if place.isFresh then
      match readIndent place.opened ⟨0, 0⟩ 0 place.line s with
      | .error fault => endTokens done (.stopped fault) place
      | .ok (at_, line, rest) =>
        let place := { place with line, isFresh := false }
        let isBlankLine := rest.head?.any fun c => c == '#' || c == '\n'
        if isBlankLine then
          match rest.dropWhile (· != '\n') with
          | '\n' :: after =>
            tokensFrom fuel
              { place with line := if after.isEmpty then line else line + 1, isFresh := true } done
              after
          | _ => tokensFrom fuel place done []
        else if place.opened.isEmpty then
          match changeIndent at_ place.indents with
          | .error fault => endTokens done (.stopped fault) place
          | .ok (indents, tokens) =>
            tokensFrom fuel { place with indents }
              ((tokens.map fun token => Lexeme.mk token 0 line).reverse ++ done) rest
        else tokensFrom fuel place done rest
    else
      match s with
      | [] =>
        if place.opened.isEmpty then endTokens done .complete place
        else endTokens done (.stopped (endFault place.opened)) place
      | c :: rest =>
        if c = ' ' ∨ c = '\t' ∨ c = '\x0C' then tokensFrom fuel place done rest
        else if c = '#' then tokensFrom fuel place done (rest.dropWhile (· != '\n'))
        else if c = '\n' then
          let next :=
            { place with line := if rest.isEmpty then place.line else place.line + 1, isFresh := true }
          tokensFrom fuel next (if place.opened.isEmpty then here .newline :: done else done) rest
        else if c = '\\' then
          match rest with
          | '\n' :: after =>
            if after.isEmpty then endTokens done (.stopped (endFault place.opened)) place
            else tokensFrom fuel { place with line := place.line + 1 } done after
          | _ => endTokens done (.stopped .strayBackslash) place
        else
          match bracketsAfter c place.line place.opened with
          | .error fault => endTokens done (.refused fault) place
          | .ok opened =>
            match readToken place.line c rest with
            | .error fault => endTokens done (.refused fault) place
            | .ok (token, after, line) =>
              let lexeme := Lexeme.mk token opened.length
                (match token with
                  | .quoted q => q.line
                  | _ => line)
              let isEndSeen := after.isEmpty && !token.isClosed
              tokensFrom fuel { place with line, opened, isEndSeen } (lexeme :: done) after

/-- A text with every line break written as a newline. -/
def plainBreaks : Text → Text
  | [] => []
  | '\r' :: '\n' :: s => '\n' :: plainBreaks s
  | c :: s => (if c = '\r' then '\n' else c) :: plainBreaks s

def tokens (line : Nat) (s : Text) : Source :=
  tokensFrom (2 * s.length + 2) ⟨line, [], [], true, false⟩ [] s

/-! ### Brackets that fit -/

theorem closeBracket_of_closing {c : Char} {line : Nat} {b : Bracket} {rest : List Bracket}
    (h : closingOf b.opening = c) : closeBracket c line (b :: rest) = .ok rest := by
  simp [closeBracket, h]

theorem length_bracketsAfter_le {c : Char} {line : Nat} {opened after : List Bracket}
    (hOpened : opened.length ≤ bracketLimit) (h : bracketsAfter c line opened = .ok after) :
    after.length ≤ bracketLimit := by
  unfold bracketsAfter at h
  split at h
  · split at h
    · simp at h
    · simp only [Except.ok.injEq] at h
      subst h
      simp only [List.length_cons]
      omega
  · split at h
    · cases opened with
      | nil => simp [closeBracket] at h
      | cons b rest =>
        simp only [closeBracket] at h
        simp only [List.length_cons] at hOpened
        split at h
        · simp only [Except.ok.injEq] at h
          subst h
          omega
        · split at h <;> simp at h
    · simp only [Except.ok.injEq] at h
      subst h
      exact hOpened

end Literal

end SuppressionAudit

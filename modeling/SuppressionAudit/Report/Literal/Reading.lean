import SuppressionAudit.Report.Literal.Grammar

/-!
# Reading by a grammar

Tokens are read by the rules of a grammar from a place on. A token is fetched when an item looks at it,
and readings of some rules are kept with the place where they began. Rules may be inside each other up
to a limit. Main definition: what a rule reads from the first token on, with the number of tokens that
were fetched.
-/

namespace SuppressionAudit

namespace Literal

/-- A reading of a rule that is kept: what the rule was read as, and the place after it. -/
structure Kept (Rule : Type) where
  rule : Rule
  node : Option Node
  place : Nat

/-- How far tokens are read: the place, the number of tokens that were fetched, and the readings kept at
each place. -/
structure Progress (Rule : Type) where
  place : Nat
  fetched : Nat
  kept : Array (List (Kept Rule))

/-- A fault that ends the reading, and the number of tokens that were fetched. -/
structure Refusal where
  fault : Fault
  fetched : Nat
deriving DecidableEq, Repr

/-- What is read, if anything is, and how far. -/
abbrev Attempt (Rule α : Type) := Except Refusal (Option α × Progress Rule)

/-- What the tokens are read with: the grammar, the tokens, what a fault of the order is told as, and
what quoted texts stand for. -/
structure Setting (Rule : Type) where
  grammar : Grammar Rule
  source : Source
  tell : Fault → Fault
  quoted : List Quotation → Except Fault Expression

def ruleLimit : Nat := 6000

/-- The words that are names as well, but have a meaning of their own in some places. -/
def looseWords : List Text := ["match".toList, "case".toList, "_".toList]

/-- Whether a name is the beginning of a word that has a meaning of its own in some places. -/
def isLoose (s : Text) : Bool := looseWords.any fun word => Text.startsWith word s

namespace Progress

variable {Rule : Type}

/-- Nothing is read yet, though some tokens may have been fetched. -/
def start (size fetched : Nat) : Progress Rule := ⟨0, fetched, Array.replicate (size + 1) []⟩

/-- Goes back, or on, to a place. -/
def moveTo (p : Progress Rule) (place : Nat) : Progress Rule := { p with place }

variable [BEq Rule]

def kept? (p : Progress Rule) (r : Rule) : Option (Kept Rule) :=
  (p.kept[p.place]?).bind fun readings => readings.find? fun k => k.rule == r

/-- Keeps a reading at the place where it began, instead of an earlier one. -/
def keep (p : Progress Rule) (start : Nat) (k : Kept Rule) : Progress Rule :=
  { p with kept := p.kept.modify start fun readings =>
      k :: readings.filter fun old => !(old.rule == k.rule) }

end Progress

section

variable {Rule : Type} [BEq Rule] (setting : Setting Rule)

/-- The token at the place, if the tokens have not ended before it. -/
def fetch (p : Progress Rule) : Attempt Rule Lexeme :=
  let p := { p with fetched := max p.fetched (p.place + 1) }
  match setting.source.lexemes[p.place]? with
  | some lexeme => .ok (some lexeme, p)
  | none =>
    match setting.source.ending with
    | .complete => .ok (none, p)
    | .refused fault => .error ⟨fault, p.fetched⟩
    | .stopped fault => .error ⟨setting.tell fault, p.fetched⟩

/-- The token at the place as a node, if it is as wanted. -/
def take (p : Progress Rule) (want : Token → Option Node) : Attempt Rule Node :=
  match fetch setting p with
  | .error refusal => .error refusal
  | .ok (none, p) => .ok (none, p)
  | .ok (some lexeme, p) =>
    match want lexeme.token with
    | some node => .ok (some node, p.moveTo (p.place + 1))
    | none => .ok (none, p)

/-- A token that carries nothing. -/
def want (token : Token) (t : Token) : Option Node := if t = token then some .nothing else none

/-- A name; letters that differ in form only are the same. -/
def wantName : Token → Option Node
  | .name s => some (.expression (.name (s.map Text.plainForm)))
  | _ => none

/-- A name that may have a meaning of its own. -/
def wantLooseWord : Token → Option Node
  | .name s => if isLoose s then some .nothing else none
  | _ => none

def wantNumber : Token → Option Node
  | .number n => some (.expression (.constant (.number n)))
  | _ => none

def wantQuoted : Token → Option Node
  | .quoted q => some (.quoted q)
  | _ => none

def isInside (p : Progress Rule) : Bool :=
  (setting.source.lexemes[p.place - 1]?).any fun lexeme => lexeme.depth != 0

def conclude (p : Progress Rule) : Outcome → Attempt Rule Node
  | .node node => .ok (some node, p)
  | .failure => .ok (none, p)
  | .fault fault => .error ⟨setting.tell (.order fault), p.fetched⟩
  | .quoted texts =>
    match setting.quoted texts with
    | .ok e => .ok (some (.expression e), p)
    | .error fault => .error ⟨fault, p.fetched⟩

/-- What the items of an alternative are read as; without that, whether the rule is committed. -/
inductive Items where
  | read (nodes : List Node)
  | missed (isCommitted : Bool)

/-- The refusal of rules that are too deep inside each other. -/
def tooLarge (p : Progress Rule) : Refusal := ⟨.tooLarge, p.fetched⟩

mutual

/-- Reads a rule that is inside a number of others. Late alternatives are tried or not. -/
def readRule : Nat → Nat → Bool → Rule → Progress Rule → Attempt Rule Node
  | 0, _, _, _, p => .error (tooLarge p)
  | fuel + 1, level, isLate, r, p =>
    if level = ruleLimit then .error (tooLarge p)
    else
      let alternatives := setting.grammar.alternatives r
      let isLate := isLate && !setting.grammar.isPlain r
      let start := p.place
      match setting.grammar.keeping r with
      | .never => readAlternatives fuel (level + 1) isLate start alternatives p
      | .always =>
        match p.kept? r with
        | some k => .ok (k.node, p.moveTo k.place)
        | none =>
          match readAlternatives fuel (level + 1) isLate start alternatives p with
          | .error refusal => .error refusal
          | .ok (node, p) => .ok (node, p.keep start ⟨r, node, p.place⟩)
      | .growing =>
        match p.kept? r with
        | some k => .ok (k.node, p.moveTo k.place)
        | none => grow fuel (level + 1) isLate r alternatives start none p

/-- Reads a rule again as long as it grows beyond what it was read as. -/
def grow : Nat → Nat → Bool → Rule → List (Alternative Rule) → Nat → Option Node → Progress Rule →
    Attempt Rule Node
  | 0, _, _, _, _, _, _, p => .error (tooLarge p)
  | fuel + 1, level, isLate, r, alternatives, start, best, p =>
    if level = ruleLimit then .error (tooLarge p)
    else
      let reached := p.place
      let p := (p.keep start ⟨r, best, reached⟩).moveTo start
      match readAlternatives fuel (level + 1) isLate start alternatives p with
      | .error refusal => .error refusal
      | .ok (none, p) => .ok (best, p.moveTo reached)
      | .ok (some node, p) =>
        if p.place ≤ reached then .ok (best, p.moveTo reached)
        else grow fuel level isLate r alternatives start (some node) p

def readAlternatives : Nat → Nat → Bool → Nat → List (Alternative Rule) → Progress Rule →
    Attempt Rule Node
  | 0, _, _, _, _, p => .error (tooLarge p)
  | _ + 1, _, _, _, [], p => .ok (none, p)
  | fuel + 1, level, isLate, start, a :: rest, p =>
    if a.isLate && !isLate then readAlternatives fuel level isLate start rest p
    else
      match readItems fuel level isLate a.items [] false p with
      | .error refusal => .error refusal
      | .ok (.read nodes, p) => conclude setting p (a.action (isInside setting p) nodes)
      | .ok (.missed isCommitted, p) =>
        if isCommitted then .ok (none, p.moveTo start)
        else readAlternatives fuel level isLate start rest (p.moveTo start)

/-- Reads items one after another; those that were read come latest first. -/
def readItems : Nat → Nat → Bool → List (Item Rule) → List Node → Bool → Progress Rule →
    Except Refusal (Items × Progress Rule)
  | 0, _, _, _, _, _, p => .error (tooLarge p)
  | _ + 1, _, _, [], done, _, p => .ok (.read done.reverse, p)
  | fuel + 1, level, isLate, item :: items, done, isCommitted, p =>
    match item with
    | .commit => readItems fuel level isLate items (.nothing :: done) true p
    | _ =>
      match readItem fuel level isLate item p with
      | .error refusal => .error refusal
      | .ok (none, p) => .ok (.missed isCommitted, p)
      | .ok (some node, p) => readItems fuel level isLate items (node :: done) isCommitted p

def readItem : Nat → Nat → Bool → Item Rule → Progress Rule → Attempt Rule Node
  | 0, _, _, _, p => .error (tooLarge p)
  | fuel + 1, level, isLate, item, p =>
    match item with
    | .mark s => take setting p (want (.mark s))
    | .name => take setting p wantName
    | .looseWord => take setting p wantLooseWord
    | .number => take setting p wantNumber
    | .quoted => take setting p wantQuoted
    | .newline => take setting p (want .newline)
    | .finish => take setting p (want .finish)
    | .rule r => readRule fuel level isLate r p
    | .optional i =>
      match readItem fuel level isLate i p with
      | .error refusal => .error refusal
      | .ok (none, q) => .ok (some .nothing, q.moveTo p.place)
      | .ok (some node, q) => .ok (some node, q)
    | .many i =>
      if level = ruleLimit then .error (tooLarge p)
      else readMany fuel (level + 1) isLate none i [] p
    | .some i =>
      if level = ruleLimit then .error (tooLarge p)
      else
        match readItem fuel (level + 1) isLate i p with
        | .error refusal => .error refusal
        | .ok (none, q) => .ok (none, q.moveTo p.place)
        | .ok (some node, q) => readMany fuel (level + 1) isLate none i [node] q
    | .listed i =>
      if level + 1 < ruleLimit then
        match readItem fuel (level + 1) isLate i p with
        | .error refusal => .error refusal
        | .ok (none, q) => .ok (none, q.moveTo p.place)
        | .ok (some node, q) =>
          readMany fuel (level + 2) isLate (some (.mark ",")) i [node] q
      else .error (tooLarge p)
    | .group alternatives =>
      if level = ruleLimit then .error (tooLarge p)
      else readAlternatives fuel (level + 1) isLate p.place alternatives p
    | .ahead i =>
      match readItem fuel level isLate i p with
      | .error refusal => .error refusal
      | .ok (node, q) => .ok (node.map fun _ => .nothing, q.moveTo p.place)
    | .notAhead i =>
      match readItem fuel level isLate i p with
      | .error refusal => .error refusal
      | .ok (none, q) => .ok (some .nothing, q.moveTo p.place)
      | .ok (some _, q) => .ok (none, q.moveTo p.place)
    | .commit => .ok (some .nothing, p)

/-- Reads an item as often as it can be read, with another one in between; what was read comes latest
first. -/
def readMany : Nat → Nat → Bool → Option (Item Rule) → Item Rule → List Node → Progress Rule →
    Attempt Rule Node
  | 0, _, _, _, _, _, p => .error (tooLarge p)
  | fuel + 1, level, isLate, between, item, done, p =>
    match readItems fuel level isLate (between.toList ++ [item]) [] false p with
    | .error refusal => .error refusal
    | .ok (.missed _, q) => .ok (some (.several done.reverse), q.moveTo p.place)
    | .ok (.read nodes, q) =>
      readMany fuel level isLate between item ((nodes.getLast?.getD .nothing) :: done) q

end

/-- A bound on the steps inside each other that a reading takes. -/
def readingFuel (size : Nat) : Nat := 64 * ruleLimit + 64 * (size + 1)

/-- What a rule is read as from the first token on, when some tokens have been fetched. -/
def readFrom (isLate : Bool) (fetched : Nat) (r : Rule) : Attempt Rule Node :=
  let size := setting.source.lexemes.size
  readRule setting (readingFuel size) 0 isLate r (Progress.start size fetched)

end

end Literal

end SuppressionAudit

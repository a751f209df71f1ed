import SuppressionAudit.Report.Literal.Outcomes

/-!
# The grammar of expressions

The rules by which the tokens of a literal are read as an expression. The rules whose names begin with
`wrong` read what is no expression, and tell why: they are tried late, in a second reading after a first
one has failed. Main definition: the grammar.
-/

namespace SuppressionAudit

namespace Literal

inductive Rule where
  | whole
  | fieldContent
  | expressions
  | expression
  | yielding
  | values
  | value
  | elements
  | element
  | assignment
  | named
  | disjunction
  | conjunction
  | negation
  | comparison
  | comparand
  | union
  | difference
  | intersection
  | shift
  | sum
  | product
  | signed
  | power
  | awaited
  | primary
  | atom
  | parenthesized
  | lambda
  | parameters
  | parameterList
  | bareBeforeSlash
  | filledBeforeSlash
  | afterStar
  | doubleStarred
  | bareParameter
  | filledParameter
  | anyParameter
  | parameter
  | filling
  | texts
  | tuple
  | set
  | dictionary
  | entries
  | entry
  | pair
  | loops
  | loop
  | setComprehension
  | generator
  | dictionaryComprehension
  | arguments
  | argumentList
  | namedArguments
  | starred
  | namedOrStarred
  | namedOrUnpacked
  | targets
  | tupleTargets
  | target
  | plainTarget
  | targetAtom
  | targetPrimary
  | targetGoesOn
  | plainExpression
  | wrongArguments
  | wrongArgument
  | wrongCall
  | wrongExpression
  | wrongNamed
  | wrongComprehension
  | wrongDictionaryComprehension
  | wrongParameters
  | wrongFilled
  | wrongFilling
  | wrongAfterStar
  | wrongDoubleStarred
  | wrongTarget
  | wrongParenthesized
  | wrongEntries
  | wrongPair
deriving DecidableEq, Repr

namespace Rule

/-! ### Items -/

/-- A rule as an item. -/
abbrev i (r : Rule) : Item Rule := .rule r

/-- An alternative that is always tried. -/
abbrev alternative (items : List (Item Rule)) (action : Action) : Alternative Rule :=
  .early items action

/-- A choice of single items, inside of an alternative. -/
def choice (items : List (Item Rule)) : Item Rule :=
  .group (items.map fun item => .early [item] (Action.keep 0))

/-- One rule that may stand for another. -/
def just (r : Rule) : Alternative Rule := .early [.rule r] (Action.keep 0)

/-- One rule that is tried late. -/
def late (r : Rule) : Alternative Rule := .late [.rule r] (Action.keep 0)

/-- What follows a mark, as a part of an alternative. -/
def after (m : String) (r : Rule) : Item Rule := .group [.early [.mark m, .rule r] (Action.keep 1)]

def operation (left : Rule) (m : String) (right : Rule) : Alternative Rule :=
  .early [.rule left, .mark m, .rule right] (Action.form .operation)

/-- An operator in front of what is compared. -/
def operator (marks : List String) : Item Rule :=
  .group [.early (marks.map .mark ++ [.rule .union]) Action.gather]

/-- An expression that no assignment follows. -/
def unassigned : List (Item Rule) := [.rule .expression, .notAhead (.mark ":=")]

/-- An argument without a name: an assignment in the form of an expression, or an expression. -/
def positional : Item Rule :=
  .group [just .assignment, .early unassigned (Action.keep 0)]

/-- What may follow a target that goes on. -/
def goesOn : Item Rule := .ahead (.rule .targetGoesOn)

/-- Parts without a comma between them. -/
def trailingComma : Item Rule := .optional (.mark ",")

/-! ### Alternatives -/

/-- The alternatives of the rules for expressions, from those that bind least. -/
def expressionAlternatives : Rule → List (Alternative Rule)
  | .whole =>
    [.early [.rule .expressions, .many .newline, .finish] (Action.keep 0)]
  | .fieldContent => [just .values]
  | .expressions =>
    [.early [.rule .expression, .some (after "," .expression), trailingComma] Action.tuple,
      .early [.rule .expression, .mark ","] Action.tuple,
      just .expression]
  | .expression =>
    [late .wrongExpression,
      late .wrongCall,
      .early [.rule .disjunction, .mark "if", .rule .disjunction, .mark "else", .rule .expression]
        (Action.form .conditional),
      just .disjunction,
      just .lambda]
  | .yielding =>
    [.early [.mark "yield", .mark "from", .rule .expression] (Action.form .yielding),
      .early [.mark "yield", .optional (.rule .values)] (Action.form .yielding)]
  | .values =>
    [.early [.rule .value, .some (after "," .value), trailingComma] Action.tuple,
      .early [.rule .value, .mark ","] Action.tuple,
      just .value]
  | .value => [.early [.mark "*", .rule .union] Action.starred, just .expression]
  | .elements => [.early [.listed (.rule .element), trailingComma] (Action.keep 0)]
  | .element => [.early [.mark "*", .rule .union] Action.starred, just .named]
  | .assignment =>
    [.early [.name, .mark ":=", .commit, .rule .expression] (Action.form .assignment)]
  | .named => [just .assignment, late .wrongNamed, .early unassigned (Action.keep 0)]
  | .disjunction =>
    [.early [.rule .conjunction, .some (after "or" .conjunction)] (Action.form .operation),
      just .conjunction]
  | .conjunction =>
    [.early [.rule .negation, .some (after "and" .negation)] (Action.form .operation),
      just .negation]
  | .negation =>
    [.early [.mark "not", .rule .negation] (Action.form .operation), just .comparison]
  | .comparison =>
    [.early [.rule .union, .some (.rule .comparand)] Action.comparison, just .union]
  | .comparand =>
    [.early [operator ["=="]] (Action.keep 0),
      .early [operator ["!="]] (Action.keep 0),
      .early [operator ["<="]] (Action.keep 0),
      .early [operator ["<"]] (Action.keep 0),
      .early [operator [">="]] (Action.keep 0),
      .early [operator [">"]] (Action.keep 0),
      .early [operator ["not", "in"]] (Action.keep 0),
      .early [operator ["in"]] Action.container,
      .early [operator ["is", "not"]] (Action.keep 0),
      .early [operator ["is"]] (Action.keep 0)]
  | .union => [operation .union "|" .difference, just .difference]
  | .difference => [operation .difference "^" .intersection, just .intersection]
  | .intersection => [operation .intersection "&" .shift, just .shift]
  | .shift => [operation .shift "<<" .sum, operation .shift ">>" .sum, just .sum]
  | .sum =>
    [.early [.rule .sum, .mark "+", .rule .product] Action.sum,
      .early [.rule .sum, .mark "-", .rule .product] Action.sum,
      just .product]
  | .product =>
    [operation .product "*" .signed,
      operation .product "/" .signed,
      operation .product "//" .signed,
      operation .product "%" .signed,
      operation .product "@" .signed,
      just .signed]
  | .signed =>
    [.early [.mark "+", .rule .signed] Action.signed,
      .early [.mark "-", .rule .signed] Action.signed,
      .early [.mark "~", .rule .signed] (Action.form .operation),
      just .power]
  | .power => [operation .awaited "**" .signed, just .awaited]
  | .awaited =>
    [.early [.mark "await", .rule .primary] (Action.form .awaiting), just .primary]
  | .primary =>
    [.early [.rule .primary, .mark ".", .name] (Action.form .attribute),
      .early [.rule .primary, .rule .generator] (Action.form .call),
      .early [.rule .primary, .mark "(", .optional (.rule .arguments), .mark ")"] Action.call,
      just .atom]
  | .atom =>
    [.early [.name] (Action.keep 0),
      .early [.mark "True"] (Action.constant (.truth true)),
      .early [.mark "False"] (Action.constant (.truth false)),
      .early [.mark "None"] (Action.constant .nothing),
      .early [.ahead .quoted, .rule .texts] (Action.keep 1),
      .early [.number] (Action.keep 0),
      .early [.ahead (.mark "("), choice [.rule .tuple, .rule .parenthesized, .rule .generator]]
        (Action.keep 1),
      .early
        [.ahead (.mark "\x7B"),
          choice [.rule .dictionary, .rule .set, .rule .dictionaryComprehension,
            .rule .setComprehension]]
        (Action.keep 1),
      .early [.mark "..."] (Action.constant .ellipsis)]
  | .parenthesized =>
    [.early [.mark "(", choice [.rule .yielding, .rule .named], .mark ")"] (Action.keep 1),
      late .wrongParenthesized]
  | .texts => [.early [.some .quoted] Action.quoted]
  | .plainExpression =>
    [.early [.rule .disjunction, .mark "if", .rule .disjunction, .mark "else", .rule .expression]
        (Action.form .conditional),
      just .disjunction,
      just .lambda]
  | _ => []

def lambdaAlternatives : Rule → List (Alternative Rule)
  | .lambda =>
    [.early [.mark "lambda", .optional (.rule .parameters), .mark ":", .rule .expression]
      (Action.form .lambda)]
  | .parameters => [late .wrongParameters, just .parameterList]
  | .parameterList =>
    [.early
        [.rule .bareBeforeSlash, .many (.rule .bareParameter), .many (.rule .filledParameter),
          .optional (.rule .afterStar)]
        Action.gather,
      .early
        [.rule .filledBeforeSlash, .many (.rule .filledParameter), .optional (.rule .afterStar)]
        Action.gather,
      .early
        [.some (.rule .bareParameter), .many (.rule .filledParameter),
          .optional (.rule .afterStar)]
        Action.gather,
      .early [.some (.rule .filledParameter), .optional (.rule .afterStar)] Action.gather,
      .early [.rule .afterStar] Action.gather]
  | .bareBeforeSlash =>
    [.early [.some (.rule .bareParameter), .mark "/", .mark ","] Action.gather,
      .early [.some (.rule .bareParameter), .mark "/", .ahead (.mark ":")] Action.gather]
  | .filledBeforeSlash =>
    [.early
        [.many (.rule .bareParameter), .some (.rule .filledParameter), .mark "/", .mark ","]
        Action.gather,
      .early
        [.many (.rule .bareParameter), .some (.rule .filledParameter), .mark "/",
          .ahead (.mark ":")]
        Action.gather]
  | .afterStar =>
    [late .wrongAfterStar,
      .early
        [.mark "*", .rule .bareParameter, .many (.rule .anyParameter),
          .optional (.rule .doubleStarred)]
        Action.gather,
      .early
        [.mark "*", .mark ",", .some (.rule .anyParameter), .optional (.rule .doubleStarred)]
        Action.gather,
      .early [.rule .doubleStarred] Action.gather]
  | .doubleStarred =>
    [late .wrongDoubleStarred, .early [.mark "**", .rule .bareParameter] Action.gather]
  | .bareParameter =>
    [.early [.rule .parameter, .mark ","] Action.gather,
      .early [.rule .parameter, .ahead (.mark ":")] Action.gather]
  | .filledParameter =>
    [.early [.rule .parameter, .rule .filling, .mark ","] Action.gather,
      .early [.rule .parameter, .rule .filling, .ahead (.mark ":")] Action.gather]
  | .anyParameter =>
    [.early [.rule .parameter, .optional (.rule .filling), .mark ","] Action.gather,
      .early [.rule .parameter, .optional (.rule .filling), .ahead (.mark ":")] Action.gather]
  | .parameter => [.early [.name] (Action.keep 0)]
  | .filling => [.early [.mark "=", .rule .expression] (Action.keep 1), late .wrongFilling]
  | _ => []

def collectionAlternatives : Rule → List (Alternative Rule)
  | .tuple =>
    [.early
      [.mark "(",
        .optional
          (.group
            [.early [.rule .element, .mark ",", .optional (.rule .elements)] Action.gather]),
        .mark ")"]
      Action.tuple]
  | .set => [.early [.mark "\x7B", .rule .elements, .mark "\x7D"] Action.set]
  | .dictionary =>
    [.early [.mark "\x7B", .optional (.rule .entries), .mark "\x7D"] Action.dictionary,
      .early [.mark "\x7B", .rule .wrongEntries, .mark "\x7D"] Action.gather]
  | .entries => [.early [.listed (.rule .entry), trailingComma] (Action.keep 0)]
  | .entry => [.early [.mark "**", .rule .union] Action.entry, just .pair]
  | .pair => [.early [.rule .expression, .mark ":", .rule .expression] Action.entry]
  | .loops => [.early [.some (.rule .loop)] (Action.keep 0)]
  | .loop =>
    [.early
        [.mark "async", .mark "for", .rule .targets, .mark "in", .commit, .rule .disjunction,
          .many (after "if" .disjunction)]
        Action.gather,
      .early
        [.mark "for", .rule .targets, .mark "in", .commit, .rule .disjunction,
          .many (after "if" .disjunction)]
        Action.gather,
      late .wrongTarget]
  | .setComprehension =>
    [.early [.mark "\x7B", .rule .named, .rule .loops, .mark "\x7D"]
        (Action.form .setComprehension),
      late .wrongComprehension]
  | .generator =>
    [.early [.mark "(", positional, .rule .loops, .mark ")"] (Action.form .generator),
      late .wrongComprehension]
  | .dictionaryComprehension =>
    [.early [.mark "\x7B", .rule .pair, .rule .loops, .mark "\x7D"]
        (Action.form .dictionaryComprehension),
      late .wrongDictionaryComprehension]
  | _ => []

def argumentAlternatives : Rule → List (Alternative Rule)
  | .arguments =>
    [.early [.rule .argumentList, trailingComma, .ahead (.mark ")")] (Action.keep 0),
      late .wrongArguments]
  | .argumentList =>
    [.early
        [.listed
            (.group [just .starred, .early [positional, .notAhead (.mark "=")] (Action.keep 0)]),
          .optional (after "," .namedArguments)]
        Action.arguments,
      .early [.rule .namedArguments] Action.arguments]
  | .namedArguments =>
    [.early [.listed (.rule .namedOrStarred), .mark ",", .listed (.rule .namedOrUnpacked)]
        Action.gather,
      .early [.listed (.rule .namedOrStarred)] Action.gather,
      .early [.listed (.rule .namedOrUnpacked)] Action.gather]
  | .starred => [.early [.mark "*", .rule .expression] Action.starred]
  | .namedOrStarred =>
    [late .wrongArgument,
      .early [.name, .mark "=", .rule .expression] (Action.argument false),
      just .starred]
  | .namedOrUnpacked =>
    [late .wrongArgument,
      .early [.name, .mark "=", .rule .expression] (Action.argument false),
      .early [.mark "**", .rule .expression] (Action.argument true)]
  | _ => []

def targetAlternatives : Rule → List (Alternative Rule)
  | .targets =>
    [.early [.rule .target, .notAhead (.mark ",")] Action.gather,
      .early [.rule .target, .many (after "," .target), trailingComma] Action.gather]
  | .tupleTargets =>
    [.early [.rule .target, .some (after "," .target), trailingComma] Action.gather,
      .early [.rule .target, .mark ","] Action.gather]
  | .target =>
    [.early
        [.mark "*", .group [.early [.notAhead (.mark "*"), .rule .target] Action.gather]]
        Action.gather,
      just .plainTarget]
  | .plainTarget =>
    [.early [.rule .targetPrimary, .mark ".", .name, .notAhead (.rule .targetGoesOn)]
        Action.gather,
      just .targetAtom]
  | .targetAtom =>
    [.early [.name] (Action.keep 0),
      .early [.mark "(", .rule .plainTarget, .mark ")"] Action.gather,
      .early [.mark "(", .optional (.rule .tupleTargets), .mark ")"] Action.gather]
  | .targetPrimary =>
    [.early [.rule .targetPrimary, .mark ".", .name, goesOn] (Action.form .attribute),
      .early [.rule .targetPrimary, .rule .generator, goesOn] (Action.form .call),
      .early
        [.rule .targetPrimary, .mark "(", .optional (.rule .arguments), .mark ")", goesOn]
        (Action.form .call),
      .early [.rule .atom, goesOn] (Action.keep 0)]
  | .targetGoesOn => [.early [.mark "("] (Action.keep 0), .early [.mark "."] (Action.keep 0)]
  | _ => []

def wrongAlternatives : Rule → List (Alternative Rule)
  | .wrongArguments =>
    [.early [.rule .argumentList, .mark ",", .mark "*"] (Action.refuse .unpackingAfterNamed),
      .early
        [.rule .expression, .rule .loops, .mark ",",
          .optional
            (.group
              [just .argumentList, .early [.rule .expression, .rule .loops] Action.gather])]
        (Action.refuse .bareGenerator),
      .early [.name, .mark "=", .rule .expression, .rule .loops] (Action.refuse .nameAssigned),
      .early [.rule .argumentList, .rule .loops] Action.bareGenerator,
      .early [.rule .argumentList, .mark ",", .rule .expression, .rule .loops]
        (Action.refuse .bareGenerator),
      .early [.rule .argumentList, .mark ",", .rule .argumentList] Action.positionalAfterNamed]
  | .wrongArgument =>
    [.early [.mark "True", .mark "="] (Action.refuse (.targetAssigned "True")),
      .early [.mark "False", .mark "="] (Action.refuse (.targetAssigned "False")),
      .early [.mark "None", .mark "="] (Action.refuse (.targetAssigned "None")),
      .early [.name, .mark "=", .rule .expression, .rule .loops] (Action.refuse .nameAssigned),
      .early
        [.notAhead (.group [.early [.name, .mark "="] Action.gather]), .rule .expression, .mark "="]
        (Action.refuse .argumentAssigned)]
  | .wrongCall =>
    [.early [.name, .notAhead (.mark "("), .rule .values] Action.missingParentheses]
  | .wrongExpression =>
    [.early
        [.notAhead
            (.group
              [.early [.name, .quoted] Action.gather, .early [.looseWord] (Action.keep 0)]),
          .rule .disjunction, .rule .plainExpression]
        Action.forgottenComma,
      .early
        [.rule .disjunction, .mark "if", .rule .disjunction,
          .notAhead (choice [.mark "else", .mark ":"])]
        (Action.refuse .missingElse)]
  | .wrongNamed =>
    [.early [.rule .expression, .mark ":=", .rule .expression]
        (Action.blame .assignmentExpression),
      .early [.name, .mark "=", .rule .union, .notAhead (choice [.mark "=", .mark ":="])]
        (Action.refuse .nameAssigned),
      .early
        [.notAhead
            (choice
              [.rule .tuple, .rule .generator, .mark "True", .mark "None", .mark "False"]),
          .rule .union, .mark "=", .rule .union, .notAhead (choice [.mark "=", .mark ":="])]
        (Action.blame .assigned)]
  | .wrongComprehension =>
    [.early [choice [.mark "(", .mark "\x7B"], .rule .starred, .rule .loops]
        (Action.refuse .starredTarget),
      .early [choice [.mark "\x7B"], .rule .element, .mark ",", .rule .elements, .rule .loops]
        (Action.refuse .bareTarget),
      .early [choice [.mark "\x7B"], .rule .element, .mark ",", .rule .loops]
        (Action.refuse .bareTarget)]
  | .wrongDictionaryComprehension =>
    [.early [.mark "\x7B", .mark "**", .rule .union, .rule .loops, .mark "\x7D"]
      (Action.refuse .unpackingTarget)]
  | .wrongParameters =>
    [.early [.many (.rule .bareParameter), .rule .wrongFilled, .rule .bareParameter]
        (Action.refuse .defaultBeforeNone),
      .early
        [.many (.rule .bareParameter), .mark "(", .listed (.rule .parameter), trailingComma,
          .mark ")"]
        (Action.refuse .bracketedParameters),
      .early [.mark "/", .mark ","] (Action.refuse .nothingBeforeSlash),
      .early
        [choice [.rule .bareBeforeSlash, .rule .filledBeforeSlash], .many (.rule .anyParameter),
          .mark "/"]
        (Action.refuse .secondSlash),
      .early
        [.optional (choice [.rule .bareBeforeSlash, .rule .filledBeforeSlash]),
          .many (.rule .anyParameter), .mark "*", choice [.mark ",", .rule .bareParameter],
          .many (.rule .anyParameter), .mark "/"]
        (Action.refuse .slashAfterStar),
      .early [.some (.rule .anyParameter), .mark "/", .mark "*"] (Action.refuse .commaAfterSlash)]
  | .wrongFilled =>
    [just .filledBeforeSlash, .early [.some (.rule .filledParameter)] (Action.keep 0)]
  | .wrongFilling =>
    [.early [.mark "=", .ahead (choice [.mark ")", .mark ","])] (Action.refuse .defaultMissing)]
  | .wrongAfterStar =>
    [.early
        [.mark "*",
          .group
            [.early [.mark ":"] (Action.keep 0),
              .early [.mark ",", choice [.mark ":", .mark "**"]] Action.gather]]
        (Action.refuse .nothingAfterStar),
      .early [.mark "*", .rule .parameter, .mark "="] (Action.refuse .defaultOfStar),
      .early
        [.mark "*", choice [.rule .bareParameter, .mark ","], .many (.rule .anyParameter),
          .mark "*", choice [.rule .bareParameter, .mark ","]]
        (Action.refuse .secondStar)]
  | .wrongDoubleStarred =>
    [.early [.mark "**", .rule .parameter, .mark "="] (Action.refuse .defaultOfDoubleStar),
      .early [.mark "**", .rule .parameter, .mark ",", .rule .parameter]
        (Action.refuse .parameterAfterDoubleStar),
      .early
        [.mark "**", .rule .parameter, .mark ",", choice [.mark "*", .mark "**", .mark "/"]]
        (Action.refuse .parameterAfterDoubleStar)]
  | .wrongTarget =>
    [.early [.optional (.mark "async"), .mark "for", .rule .values] Action.badTarget]
  | .wrongParenthesized =>
    [.early [.mark "(", .rule .starred, .mark ")"] (Action.refuse .starredGroup),
      .early [.mark "(", .mark "**", .rule .expression, .mark ")"]
        (Action.refuse .doubleStarredGroup)]
  | .wrongEntries =>
    [.early [.listed (.rule .entry), .mark ",", .rule .wrongPair] Action.gather,
      .early [.rule .expression, .mark ":", .mark "*", .rule .union]
        (Action.refuse .starredValue),
      .early [.rule .expression, .mark ":", .ahead (choice [.mark "\x7D", .mark ","])]
        (Action.refuse .valueMissing)]
  | .wrongPair =>
    [.early [.rule .expression, .notAhead (.mark ":")] (Action.refuse .colonMissing),
      .early [.rule .expression, .mark ":", .mark "*", .rule .union]
        (Action.refuse .starredValue),
      .early [.rule .expression, .mark ":", .ahead (choice [.mark "\x7D", .mark ","])]
        (Action.refuse .valueMissing)]
  | _ => []

def alternatives (r : Rule) : List (Alternative Rule) :=
  expressionAlternatives r ++ lambdaAlternatives r ++ collectionAlternatives r
    ++ argumentAlternatives r ++ targetAlternatives r ++ wrongAlternatives r

/-- The rules that begin with themselves. -/
def growingRules : List Rule :=
  [.union, .difference, .intersection, .shift, .sum, .product, .primary, .targetPrimary]

/-- The rules whose readings are kept, and that do not begin with themselves. -/
def keptRules : List Rule :=
  [.expression, .value, .disjunction, .conjunction, .negation, .signed, .awaited, .texts, .arguments,
    .target, .plainTarget, .wrongNamed]

def keeping (r : Rule) : Keeping :=
  if growingRules.contains r then .growing else if keptRules.contains r then .always else .never

def grammar : Grammar Rule :=
  ⟨alternatives, keeping, fun r => r == .plainExpression⟩

/-! ### How the rules are kept -/

theorem keeping_eq_growing_iff (r : Rule) : keeping r = .growing ↔ r ∈ growingRules := by
  cases r <;> decide

theorem keeping_whole : keeping .whole = .never := rfl

end Rule

end Literal

end SuppressionAudit

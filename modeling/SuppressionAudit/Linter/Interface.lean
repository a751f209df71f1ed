import SuppressionAudit.Linter.Failure
import SuppressionAudit.Path
import SuppressionAudit.Severity

/-!
# What an audit asks the linter

Two questions: which of some files are ignored, asked for all of them at once, and which rules are
in force in a file. A linter may keep books of its own between questions. The rules of a file are
asked for once; every later question about it, also after a failure, has the same answer.
-/

namespace SuppressionAudit

/-- Something that answers the two questions, with books of type `σ`. -/
structure Linter (σ : Type) where
  checkIgnored : List Path → σ → List (Except LinterFailure Bool) × σ
  fetchRules : Path → σ → Except LinterFailure Rules × σ

/-- A linter without books, whose answers depend on the file alone. -/
def Linter.ofFunctions (ignored : Path → Bool) (rules : Path → Except LinterFailure Rules) :
    Linter Unit :=
  { checkIgnored := fun paths s => (paths.map fun path => .ok (ignored path), s)
    fetchRules := fun path s => (rules path, s) }

/-- The rules that were asked for, in the order of the questions, and the linter's books. -/
structure RuleCache (σ : Type) where
  books : σ
  fetched : List (Path × Except LinterFailure Rules)

namespace RuleCache

variable {σ : Type}

/-- Nothing asked for yet. -/
def fresh (books : σ) : RuleCache σ := ⟨books, []⟩

/-- What was answered for a path. -/
def answer? (path : Path) :
    List (Path × Except LinterFailure Rules) → Option (Except LinterFailure Rules)
  | [] => none
  | (p, answer) :: entries => if p = path then some answer else answer? path entries

/-- The rules of a file, from the first answer for it. -/
def rulesFor (linter : Linter σ) (path : Path) (cache : RuleCache σ) :
    Except LinterFailure Rules × RuleCache σ :=
  match answer? path cache.fetched with
  | some answer => (answer, cache)
  | none =>
    let r := linter.fetchRules path cache.books
    (r.1, ⟨r.2, cache.fetched ++ [(path, r.1)]⟩)

/-- The severity of a rule in a file. -/
def severityFor (linter : Linter σ) (path : Path) (rule : Text) (cache : RuleCache σ) :
    Except LinterFailure Severity × RuleCache σ :=
  let r := rulesFor linter path cache
  (r.1.map fun rules => Severity.ofRule rules rule, r.2)

/-- The severities of several rules in files, asked for in order. -/
def severitiesFor (linter : Linter σ) :
    List (Path × Text) → RuleCache σ → List (Except LinterFailure Severity) × RuleCache σ
  | [], cache => ([], cache)
  | (path, rule) :: requests, cache =>
    let r := severityFor linter path rule cache
    let rest := severitiesFor linter requests r.2
    (r.1 :: rest.1, rest.2)

def fetchedPaths (cache : RuleCache σ) : List Path := cache.fetched.map Prod.fst

end RuleCache

end SuppressionAudit

import Mathlib.Data.List.Forall2
import SuppressionAudit.Proofs.Json.Fields
import SuppressionAudit.Proofs.Linter.Failures

/-!
# Accepted answers

A process answers for its batch when it leaves with the code 0 and writes a list with one object for each
path, each of them with a truth value under "ignored" and an object under "rules". Such a list is taken as
it stands, and each path is known by its own object from then on. Anything else that a process can write,
or leave with, fails the batch, and no path of it is known. The failure is one of the linter, unless it is
of the three that are passed on as they come.
-/

namespace SuppressionAudit

/-- The answer that an object writes; fields of other names are free. -/
def LinterAnswer.WrittenIn (answer : LinterAnswer) (item : Json) : Prop :=
  ∃ fields, item = .obj fields ∧ Json.LastField "ignored".toList (.bool answer.ignored) fields ∧
    Json.LastField "rules".toList (.obj answer.rules) fields

namespace ProcessOutcome

/-- The process left with the code 0 and wrote one object for each of so many files. -/
def Answers (outcome : ProcessOutcome) (limit files : Nat) (answers : List LinterAnswer) : Prop :=
  ∃ output errors items, outcome = .exited 0 (some output) errors ∧
    Json.read output limit = .ok (.arr items) ∧ items.length = files ∧
    List.Forall₂ LinterAnswer.WrittenIn answers items

/-- The process left with the code 0, and what it wrote is nested too deep to be read. -/
def WroteTooDeep (outcome : ProcessOutcome) (limit : Nat) : Prop :=
  ∃ output errors, outcome = .exited 0 (some output) errors ∧ Json.read output limit = .error .tooDeep

/-- The process was refused for another reason than that its executable is missing, or what it wrote is
no text, or is nested too deep. -/
def IsPassedOn (outcome : ProcessOutcome) (limit : Nat) : Prop :=
  (∃ fault, outcome = .notStarted fault ∧ fault ≠ .notFound) ∨ (∃ detail, outcome = .undecodable detail) ∨
    outcome.WroteTooDeep limit

variable {limit : Nat} {fault : Fault} {detail : Text} {code : Int} {output errors : Option Text}

@[simp] theorem not_wroteTooDeep_notStarted : ¬ (notStarted fault).WroteTooDeep limit := by
  rintro ⟨output, errors, hexited, -⟩
  cases hexited

@[simp] theorem not_wroteTooDeep_undecodable : ¬ (undecodable detail).WroteTooDeep limit := by
  rintro ⟨output, errors, hexited, -⟩
  cases hexited

theorem wroteTooDeep_exited_iff : (exited code output errors).WroteTooDeep limit
    ↔ code = 0 ∧ Json.read (output.getD []) limit = .error .tooDeep := by
  constructor
  · rintro ⟨output, errors, hexited, hread⟩
    cases hexited
    exact ⟨rfl, hread⟩
  · rintro ⟨rfl, hread⟩
    cases output with
    | none => cases hread
    | some output => exact ⟨output, errors, rfl, hread⟩

theorem isPassedOn_notStarted_iff : (notStarted fault).IsPassedOn limit ↔ fault ≠ .notFound := by
  simp [IsPassedOn]

@[simp] theorem isPassedOn_undecodable : (undecodable detail).IsPassedOn limit :=
  .inr (.inl ⟨detail, rfl⟩)

theorem isPassedOn_exited_iff : (exited code output errors).IsPassedOn limit
    ↔ (exited code output errors).WroteTooDeep limit := by
  simp [IsPassedOn]

end ProcessOutcome

/-! ### Objects -/

namespace LinterAnswer

variable {path : Path} {batch : List Path} {item : Json} {items : List Json} {answer : LinterAnswer}
  {answers : List LinterAnswer} {failure : LinterFailure}

theorem ofJson_eq_ok_iff : ofJson path item = .ok answer ↔ answer.WrittenIn item := by
  constructor
  · intro h
    unfold ofJson at h
    split at h
    · next fields =>
      split at h
      · next ignored hignored =>
        split at h
        · next rules hrules =>
          obtain rfl := Except.ok.inj h
          exact ⟨fields, rfl, Json.lookup_eq_some_iff.1 hignored, Json.lookup_eq_some_iff.1 hrules⟩
        · simp at h
      · simp at h
    · simp at h
  · rintro ⟨fields, rfl, hignored, hrules⟩
    simp only [ofJson, Json.lookup_eq_some_iff.2 hignored, Json.lookup_eq_some_iff.2 hrules]

theorem listOfJson_eq_ok_iff (hlen : items.length = batch.length) :
    listOfJson batch items = .ok answers ↔ List.Forall₂ WrittenIn answers items := by
  induction batch generalizing items answers with
  | nil =>
    obtain rfl := List.eq_nil_of_length_eq_zero hlen
    rw [List.forall₂_nil_right_iff]
    show Except.ok [] = Except.ok answers ↔ answers = []
    rw [Except.ok.injEq, eq_comm]
  | cons path batch ih =>
    obtain ⟨item, items, rfl⟩ := List.exists_cons_of_length_eq_add_one hlen
    have hrest : items.length = batch.length := Nat.succ.inj hlen
    constructor
    · intro h
      simp only [listOfJson] at h
      split at h
      · simp at h
      · next answer hitem =>
        split at h
        · simp at h
        · next rest hanswers =>
          obtain rfl := Except.ok.inj h
          exact .cons (ofJson_eq_ok_iff.1 hitem) ((ih hrest).1 hanswers)
    · intro h
      cases h with
      | cons hitem hanswers =>
        have hread : ofJson path item = .ok _ := ofJson_eq_ok_iff.2 hitem
        simp only [listOfJson, hread, (ih hrest).2 hanswers]

/-- One bad object among as many as are asked for is a failure of the linter. -/
theorem isTold_of_listOfJson (h : listOfJson batch items = .error failure) : failure.isTold = true := by
  induction batch generalizing items with
  | nil => simp [listOfJson] at h
  | cons path batch ih =>
    cases items with
    | nil => simp [listOfJson] at h
    | cons item items =>
      simp only [listOfJson] at h
      split at h
      · next hitem =>
        obtain rfl := Except.error.inj h
        unfold ofJson at hitem
        repeat' split at hitem
        all_goals cases hitem
        all_goals rfl
      · split at h
        · next hanswers =>
          obtain rfl := Except.error.inj h
          exact ih hanswers
        · simp at h

/-! ### Documents and outcomes -/

variable {limit : Nat} {document executable : Text} {outcome : ProcessOutcome}

theorem ofDocument_eq_ok_iff : ofDocument limit batch document = .ok answers ↔
    ∃ items, Json.read document limit = .ok (.arr items) ∧ items.length = batch.length ∧
      List.Forall₂ WrittenIn answers items := by
  constructor
  · intro h
    unfold ofDocument at h
    split at h
    · simp at h
    · simp at h
    · next items hread =>
      split at h
      · next hlen => exact ⟨items, hread, hlen, (listOfJson_eq_ok_iff hlen).1 h⟩
      · simp at h
    · simp at h
  · rintro ⟨items, hread, hlen, hanswers⟩
    simp only [ofDocument, hread, hlen, if_true, (listOfJson_eq_ok_iff hlen).2 hanswers]

/-- Of the ways in which a document is refused, only its depth is passed on. -/
theorem ofDocument_eq_error (h : ofDocument limit batch document = .error failure) :
    (failure = .tooDeep ∧ Json.read document limit = .error .tooDeep) ∨
      (failure.isTold = true ∧ Json.read document limit ≠ .error .tooDeep) := by
  unfold ofDocument at h
  split at h
  · next hread =>
    cases h
    exact .inr ⟨rfl, by simp [hread]⟩
  · next hread =>
    cases h
    exact .inl ⟨rfl, hread⟩
  · next hread =>
    split at h
    · exact .inr ⟨isTold_of_listOfJson h, by simp [hread]⟩
    · cases h
      exact .inr ⟨rfl, by simp [hread]⟩
  · next hread =>
    cases h
    exact .inr ⟨rfl, by simp [hread]⟩

/-- A process that writes nothing has written no document. -/
theorem read_nil : Json.read [] limit = .error .malformed := rfl

theorem ofOutcome_eq_ok_iff :
    ofOutcome limit executable batch outcome = .ok answers ↔ outcome.Answers limit batch.length answers := by
  constructor
  · intro h
    cases outcome with
    | notStarted fault => cases fault <;> simp [ofOutcome] at h
    | undecodable detail => simp [ofOutcome] at h
    | exited code output errors =>
      simp only [ofOutcome] at h
      split at h
      · next hcode =>
        obtain ⟨items, hread, hlen, hanswers⟩ := ofDocument_eq_ok_iff.1 h
        cases output with
        | none => simp [read_nil] at hread
        | some output => exact ⟨output, errors, items, by rw [hcode], hread, hlen, hanswers⟩
      · simp at h
  · rintro ⟨output, errors, items, rfl, hread, hlen, hanswers⟩
    exact ofDocument_eq_ok_iff.2 ⟨items, hread, hlen, hanswers⟩

/-- A refused process tells a failure of the linter unless it is one of those that are passed on. -/
theorem ofOutcome_eq_error (h : ofOutcome limit executable batch outcome = .error failure) :
    (failure = .tooDeep ↔ outcome.WroteTooDeep limit) ∧
      (failure.isTold = false ↔ outcome.IsPassedOn limit) := by
  cases outcome with
  | notStarted fault =>
    rw [ProcessOutcome.isPassedOn_notStarted_iff]
    cases fault <;> (cases h; simp [LinterFailure.isTold])
  | undecodable detail =>
    cases h
    simp [LinterFailure.isTold]
  | exited code output errors =>
    rw [ProcessOutcome.isPassedOn_exited_iff, ProcessOutcome.wroteTooDeep_exited_iff]
    simp only [ofOutcome] at h
    split at h
    · next hcode =>
      rcases ofDocument_eq_error h with ⟨rfl, hread⟩ | ⟨htold, hread⟩
      · simp [hcode, hread, LinterFailure.isTold]
      · have hne : failure ≠ .tooDeep := by
          rintro rfl
          cases htold
        simp [hcode, hread, htold, hne]
    · next hcode =>
      cases h
      simp [hcode, LinterFailure.isTold]

end LinterAnswer

/-! ### The end of a batch -/

namespace Batching

variable {s : State} {index : Nat} {batch : List Path} {answers : List LinterAnswer}

/-- What the end of a batch by answers changes: they are kept, path by path, and each is told to those that
wait for its path and to nobody else. -/
structure IsAnswered (s after : State) (told : List (Ticket × Outcome)) (batch : List Path)
    (answers : List LinterAnswer) : Prop where
  length : answers.length = batch.length
  results : after.results = s.results ++ batch.zip answers
  known : ∀ (i : Nat) path answer, batch[i]? = some path → answers[i]? = some answer →
    valueOf? path after.results = some answer
  tell : ∀ ticket o, (ticket, o) ∈ told ↔ ∃ (i : Nat) (path : Path) (answer : LinterAnswer),
    batch[i]? = some path ∧ answers[i]? = some answer ∧ ticket ∈ waitersOf path s ∧ o = .ok answer
  accounted : (waiting s).Perm (told.map Prod.fst ++ waiting after)

theorem mem_zip_iff_getElem? {path : Path} {answer : LinterAnswer} :
    (path, answer) ∈ batch.zip answers ↔ ∃ i : Nat, batch[i]? = some path ∧ answers[i]? = some answer := by
  simp only [List.mem_iff_getElem?, List.getElem?_zip_eq_some]

theorem isAnswered_of_consistent (h : Consistent s) (hbatch : s.inFlight[index]? = some batch)
    (hlen : answers.length = batch.length) :
    IsAnswered s (finish index (.ok answers) s).2 (finish index (.ok answers) s).1 batch answers := by
  have hfits : Event.Fits s (.finish index (.ok answers)) := by
    intro other hother
    obtain rfl := Option.some.inj (hbatch.symm.trans hother)
    exact hlen
  have hresults : (finish index (.ok answers) s).2.results = s.results ++ batch.zip answers := by
    simp only [finish, hbatch]
  have haccounts := h.accounts hfits
  simp only [step, Event.tickets, List.append_nil] at haccounts
  refine ⟨hlen, hresults, ?_, ?_, haccounts⟩
  · intro i path answer hpath hanswer
    have hmem : (path, answer) ∈ s.results ++ batch.zip answers :=
      List.mem_append_right _ (mem_zip_iff_getElem?.2 ⟨i, hpath, hanswer⟩)
    rw [← hresults] at hmem
    exact valueOf?_of_mem (h.finish hfits).results_nodup hmem
  · intro ticket o
    simp only [finish, hbatch, List.mem_flatMap, deliver, List.mem_map, Prod.mk.injEq, Prod.exists,
      mem_zip_iff_getElem?]
    constructor
    · rintro ⟨path, answer, ⟨i, hpath, hanswer⟩, t, ht, rfl, rfl⟩
      exact ⟨i, path, answer, hpath, hanswer, ht, rfl⟩
    · rintro ⟨i, path, answer, hpath, hanswer, ht, rfl⟩
      exact ⟨path, answer, ⟨i, hpath, hanswer⟩, ticket, ht, rfl, rfl⟩

/-- What a process leaves its batch with: either its answers, or a failure and no answer for any path. -/
structure TakenWhole (s after : State) (told : List (Ticket × Outcome)) (limit : Nat) (batch : List Path)
    (outcome : ProcessOutcome) (received : Except LinterFailure (List LinterAnswer)) : Prop where
  accepted : ∀ answers, received = .ok answers ↔ outcome.Answers limit batch.length answers
  answered : ∀ answers, outcome.Answers limit batch.length answers → IsAnswered s after told batch answers
  refused : (∀ answers, ¬ outcome.Answers limit batch.length answers) → ∃ failure,
    received = .error failure ∧ (failure = .tooDeep ↔ outcome.WroteTooDeep limit) ∧
    (failure.isTold = false ↔ outcome.IsPassedOn limit) ∧ FailsAlone s after told batch failure ∧
    ∀ path ∈ batch, valueOf? path after.results = none

/-- After every run, a process that ends answers for its batch as a whole or not at all: it succeeds when
and only when it wrote one good object for each path, in which case each path is known by its own object;
otherwise the batch fails and none of its paths is known. -/
theorem batch_taken_whole_or_not_at_all (events : List Event) (hfits : FitsRun State.initial events)
    {index : Nat} {batch : List Path} (hbatch : (booksAfter events).inFlight[index]? = some batch)
    (limit : Nat) (executable : Text) (outcome : ProcessOutcome) :
    TakenWhole (booksAfter events)
      (finish index (LinterAnswer.ofOutcome limit executable batch outcome) (booksAfter events)).2
      (finish index (LinterAnswer.ofOutcome limit executable batch outcome) (booksAfter events)).1
      limit batch outcome (LinterAnswer.ofOutcome limit executable batch outcome) := by
  have hbooks : Consistent (booksAfter events) := Consistent.initial.run hfits
  refine ⟨fun answers => LinterAnswer.ofOutcome_eq_ok_iff, ?_, ?_⟩
  · intro answers hanswers
    have hreceived : LinterAnswer.ofOutcome limit executable batch outcome = .ok answers :=
      LinterAnswer.ofOutcome_eq_ok_iff.2 hanswers
    rw [hreceived]
    exact isAnswered_of_consistent hbooks hbatch (length_ofOutcome hreceived)
  · intro hnone
    cases hreceived : LinterAnswer.ofOutcome limit executable batch outcome with
    | ok answers => exact absurd (LinterAnswer.ofOutcome_eq_ok_iff.1 hreceived) (hnone answers)
    | error failure =>
      have halone := failsAlone_of_consistent hbooks hbatch failure
      obtain ⟨hdeep, htold⟩ := LinterAnswer.ofOutcome_eq_error hreceived
      refine ⟨failure, rfl, hdeep, htold, halone, ?_⟩
      intro path hpath
      rw [halone.results, valueOf?_eq_none_iff]
      exact hbooks.unanswered path (hbooks.batch_subset hbatch path hpath)

def pairOfFiles : List Path := [⟨[], [['a']]⟩, ⟨[], [['b']]⟩]

/-- Two files in one batch, one of them asked for twice. -/
def pairInFlight : List Event :=
  [.request ⟨[], [['a']]⟩ 0, .request ⟨[], [['b']]⟩ 1, .request ⟨[], [['a']]⟩ 2, .cut]

/-- A process that answers for one file, and for another one with a given truth value. -/
def pairOutcome (ignored : Text) : ProcessOutcome :=
  .exited 0 (some ("[\x7b\"ignored\": true, \"rules\": \x7b\x7d\x7d, ".toList
    ++ "\x7b\"rules\": \x7b\"semi\": 2\x7d, \"x\": [], \"ignored\": ".toList ++ ignored ++ "\x7d]\n".toList)) none

def pairAnswers : List LinterAnswer := [⟨true, []⟩, ⟨false, [("semi".toList, .int 2)]⟩]

theorem batch_of_two_taken_whole_or_not_at_all :
    FitsRun State.initial pairInFlight ∧ (booksAfter pairInFlight).inFlight[0]? = some pairOfFiles ∧
    (LinterAnswer.ofOutcome Json.nestingLimit "node".toList pairOfFiles (pairOutcome "false".toList) = .ok pairAnswers ∧
      IsAnswered (booksAfter pairInFlight) (finish 0 (.ok pairAnswers) (booksAfter pairInFlight)).2
        (finish 0 (.ok pairAnswers) (booksAfter pairInFlight)).1 pairOfFiles pairAnswers) ∧
    LinterAnswer.ofOutcome Json.nestingLimit "node".toList pairOfFiles (pairOutcome "0".toList)
        = .error (.ignoreNotTruthValue ['b']) ∧
      ∀ path ∈ pairOfFiles,
        valueOf? path (finish 0 (.error (.ignoreNotTruthValue ['b'])) (booksAfter pairInFlight)).2.results
          = none := by
  have hfits : FitsRun State.initial pairInFlight := ⟨trivial, trivial, trivial, trivial, trivial⟩
  have hbatch : (booksAfter pairInFlight).inFlight[0]? = some pairOfFiles := rfl
  have hgood : LinterAnswer.ofOutcome Json.nestingLimit "node".toList pairOfFiles (pairOutcome "false".toList)
      = .ok pairAnswers := by
    decide +kernel
  have hbad : LinterAnswer.ofOutcome Json.nestingLimit "node".toList pairOfFiles (pairOutcome "0".toList)
      = .error (.ignoreNotTruthValue ['b']) := by
    decide +kernel
  refine ⟨hfits, hbatch, ⟨hgood, ?_⟩, hbad, ?_⟩
  · have hall := batch_taken_whole_or_not_at_all pairInFlight hfits hbatch Json.nestingLimit
      "node".toList (pairOutcome "false".toList)
    rw [hgood] at hall
    exact hall.answered _ ((hall.accepted _).1 rfl)
  · have hall := batch_taken_whole_or_not_at_all pairInFlight hfits hbatch Json.nestingLimit
      "node".toList (pairOutcome "0".toList)
    rw [hbad] at hall
    have hnone : ∀ answers, ¬ (pairOutcome "0".toList).Answers Json.nestingLimit pairOfFiles.length answers := by
      intro answers hanswers
      have hok := (hall.accepted answers).2 hanswers
      simp at hok
    obtain ⟨failure, -, -, -, -, hknown⟩ := hall.refused hnone
    exact hknown

end Batching

end SuppressionAudit

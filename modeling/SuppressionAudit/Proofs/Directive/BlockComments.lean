import SuppressionAudit.Directive.Block
import SuppressionAudit.Proofs.Directive.Markers
import SuppressionAudit.Proofs.Directive.Places

/-!
# Block directives by place

A block directive lies in a text where the text reads as its marker, a body without an asterisk and the
end of a comment. Two of them can share one character only: the slash that closes the first opens the
second. The scan takes them from left to right and never takes a slash twice, so it finds exactly those
whose opening slash does not close one that it found.
-/

namespace SuppressionAudit

/-- A block directive in a text: where it opens, its body, and the offset behind its end. -/
structure BlockComment where
  start : Nat
  body : Text
  stop : Nat
deriving DecidableEq, Repr

namespace BlockComment

def LiesIn (content : Text) (c : BlockComment) : Prop :=
  '*' ∉ c.body ∧ c.stop ≤ content.length ∧
    ReadsBlock (content.drop c.start) (c.body ++ ['*', '/'] ++ content.drop c.stop)

def suppressions (c : BlockComment) : List Suppression :=
  (RuleList.parse c.body).rules.map fun mention =>
    ⟨mention.name, ⟨1, 1⟩, (RuleList.parse c.body).justification, .block⟩

end BlockComment

namespace Block

/-! ### One comment -/

theorem run_body {body : Text} (hbody : '*' ∉ body) (rest : Text) :
    Run (fun c => c != '*') body (['*', '/'] ++ rest) := by
  refine ⟨fun c hc => ?_, by rintro c ⟨⟩; rfl⟩
  have hne : c ≠ '*' := fun e => hbody (e ▸ hc)
  simpa using hne

theorem comment?_eq_some_iff {s body rest : Text} :
    comment? s = some (body, rest) ↔ '*' ∉ body ∧ ReadsBlock s (body ++ ['*', '/'] ++ rest) := by
  constructor
  · intro h
    unfold comment? at h
    split at h
    · simp at h
    · next t ht =>
      split at h
      · next u hu =>
        simp only [Option.some.injEq, Prod.mk.injEq] at h
        obtain ⟨hb, rfl⟩ := h
        have hrun := Run.of_takeWhile (fun c => c != '*') t
        rw [hb] at hrun
        have ht' : t = body ++ (['*', '/'] ++ u) := by
          rw [← hb, show (['*', '/'] : Text) ++ u = t.dropWhile fun c => c != '*' from
            (Text.dropLiteral?_eq_some hu).symm, List.takeWhile_append_dropWhile]
        refine ⟨fun hmem => by simpa using hrun.inside '*' hmem, ?_⟩
        rw [List.append_assoc, ← ht']
        exact Marker.block?_eq_some_iff.1 ht
      · simp at h
  · rintro ⟨hbody, hread⟩
    have hrun := run_body hbody rest
    rw [List.append_assoc] at hread
    have hclose : Text.dropLiteral? Marker.blockClosing (['*', '/'] ++ rest) = some rest :=
      Text.dropLiteral?_append ['*', '/'] rest
    simp only [comment?, Marker.block?_eq_some_iff.2 hread, hrun.dropWhile_eq, hrun.takeWhile_eq,
      hclose]

/-- The characters of a comment: asterisks stand next to the two slashes at its ends only, and no slash
follows its opening. -/
theorem shape_of_readsBlock {s body rest : Text} (hbody : '*' ∉ body)
    (h : ReadsBlock s (body ++ ['*', '/'] ++ rest)) :
    ∃ middle, s = ['/', '*'] ++ middle ++ (['*', '/'] ++ rest) ∧ '*' ∉ middle ∧
      middle.head? ≠ some '/' ∧ middle ≠ [] := by
  obtain ⟨blanks, qualifier, gap, hs, hblanks, hq, -, hrun⟩ := h
  have hq := List.mem_singleton.1 hq
  have hstar : ∀ t : Text, (∀ c ∈ t, isBlank c = true) → '*' ∉ t :=
    fun t ht hmem => absurd (ht '*' hmem) (by decide)
  refine ⟨blanks ++ ("eslint-disable".toList ++ (gap ++ body)), ?_, ?_, ?_, ?_⟩
  · simp only [hs, hq, List.append_assoc, List.nil_append]
  · simp only [List.mem_append, not_or]
    exact ⟨hstar blanks hblanks, by decide, hstar gap hrun.inside, hbody⟩
  · cases blanks with
    | nil =>
      intro e
      exact absurd (show some 'e' = some '/' from e) (by decide)
    | cons c blanks =>
      intro e
      have hc : c = '/' := Option.some.inj e
      exact absurd (hc ▸ hblanks c List.mem_cons_self) (by decide)
  · intro e
    have hlen := congrArg List.length e
    simp only [List.length_append, List.length_nil] at hlen
    have hword : "eslint-disable".toList.length = 14 := rfl
    omega

theorem asterisk_place {middle rest : Text} {k : Nat} (hmiddle : '*' ∉ middle)
    (h : ('/' :: '*' :: (middle ++ '*' :: '/' :: rest))[k + 1]? = some '*') :
    k = 0 ∨ k = middle.length + 1 ∨ middle.length + 3 ≤ k := by
  cases k with
  | zero => exact .inl rfl
  | succ j =>
    simp only [List.getElem?_cons_succ] at h
    rcases Nat.lt_or_ge j middle.length with hj | hj
    · rw [List.getElem?_append_left hj] at h
      exact absurd (List.mem_of_getElem? h) hmiddle
    · obtain ⟨n, rfl⟩ : ∃ n, j = middle.length + n := ⟨j - middle.length, by omega⟩
      rw [List.getElem?_append_right hj, Nat.add_sub_cancel_left] at h
      match n, h with
      | 0, _ => exact .inr (.inl rfl)
      | 1, h => simp at h
      | n + 2, _ => exact .inr (.inr (by omega))

end Block

namespace BlockComment

variable {content : Text} {c d : BlockComment}

theorem LiesIn.shape (h : c.LiesIn content) :
    ∃ middle, content.drop c.start = ['/', '*'] ++ middle ++ (['*', '/'] ++ content.drop c.stop) ∧
      '*' ∉ middle ∧ middle.head? ≠ some '/' ∧ middle ≠ [] ∧
      c.stop = c.start + middle.length + 4 := by
  obtain ⟨hbody, hstop, hread⟩ := h
  obtain ⟨middle, hdrop, hstar, hslash, hne⟩ := Block.shape_of_readsBlock hbody hread
  refine ⟨middle, hdrop, hstar, hslash, hne, ?_⟩
  have hlen := congrArg List.length hdrop
  simp only [List.length_append, List.length_drop, List.length_cons, List.length_nil] at hlen
  omega

theorem LiesIn.start_lt_stop (h : c.LiesIn content) : c.start + 1 < c.stop := by
  obtain ⟨middle, -, -, -, -, hstop⟩ := h.shape
  omega

theorem LiesIn.start_lt_length (h : c.LiesIn content) : c.start < content.length := by
  have hlt := h.start_lt_stop
  have hle := h.2.1
  omega

theorem LiesIn.eq_of_start_eq (hc : c.LiesIn content) (hd : d.LiesIn content)
    (h : c.start = d.start) : c = d := by
  obtain ⟨start, body, stop⟩ := c
  obtain ⟨start', body', stop'⟩ := d
  have h : start = start' := h
  subst h
  obtain ⟨hbody, hstop, hread⟩ := hc
  obtain ⟨hbody', hstop', hread'⟩ := hd
  have hone := Block.comment?_eq_some_iff.2 ⟨hbody, hread⟩
  rw [Block.comment?_eq_some_iff.2 ⟨hbody', hread'⟩, Option.some.injEq, Prod.mk.injEq] at hone
  obtain ⟨rfl, hrest⟩ := hone
  have hlen := congrArg List.length hrest
  simp only [List.length_drop] at hlen
  dsimp only at hstop hstop'
  have hst : stop = stop' := by omega
  rw [hst]

/-- A directive that opens inside another one opens with its closing slash. -/
theorem LiesIn.shares_slash (hc : c.LiesIn content) (hd : d.LiesIn content)
    (hlt : c.start < d.start) (hin : d.start < c.stop) : d.start + 1 = c.stop := by
  obtain ⟨m, hcdrop, hstar, -, -, hstop⟩ := hc.shape
  obtain ⟨m', hddrop, -, hslash, hne', -⟩ := hd.shape
  obtain ⟨k, hk⟩ : ∃ k, d.start = c.start + k := ⟨d.start - c.start, by omega⟩
  -- the characters of the second comment, read inside the first one
  have hread : ∀ j, (['/', '*'] ++ m' ++ (['*', '/'] ++ content.drop d.stop))[j]?
      = (['/', '*'] ++ m ++ (['*', '/'] ++ content.drop c.stop))[k + j]? := by
    intro j
    rw [← hddrop, ← hcdrop, hk, ← List.drop_drop, List.getElem?_drop]
  have hasterisk := hread 1
  have hnext := hread 2
  simp only [List.cons_append, List.nil_append, List.getElem?_cons_zero, List.getElem?_cons_succ]
    at hasterisk hnext
  rcases Block.asterisk_place hstar hasterisk.symm with h0 | hclosing | hbehind
  · omega
  · -- a slash would follow the opening of the second comment
    have hclose : (m ++ '*' :: '/' :: content.drop c.stop)[m.length + 1]? = some '/' := by simp
    rw [hclosing, hclose] at hnext
    cases m' with
    | nil => exact absurd rfl hne'
    | cons x m' => exact absurd hnext hslash
  · omega

/-- What a scan finds from a directive on, when it goes on behind it. -/
theorem mem_cons_iff {first : BlockComment} {later : List BlockComment} (hfirst : first.LiesIn content)
    (hlater : ∀ c, c ∈ later ↔
      c.LiesIn content ∧ first.stop ≤ c.start ∧ ∀ d ∈ later, d.stop ≠ c.start + 1)
    (c : BlockComment) :
    c ∈ first :: later ↔
      c.LiesIn content ∧ first.start ≤ c.start ∧ ∀ d ∈ first :: later, d.stop ≠ c.start + 1 := by
  have hlt := hfirst.start_lt_stop
  constructor
  · intro hmem
    rcases List.mem_cons.1 hmem with rfl | hmem
    · refine ⟨hfirst, Nat.le_refl _, ?_⟩
      intro d hd
      rcases List.mem_cons.1 hd with rfl | hd
      · omega
      · obtain ⟨hdlies, hdle, -⟩ := (hlater d).1 hd
        have hdlt := hdlies.start_lt_stop
        omega
    · obtain ⟨hlies, hle, hshare⟩ := (hlater c).1 hmem
      refine ⟨hlies, by omega, ?_⟩
      intro d hd
      rcases List.mem_cons.1 hd with rfl | hd
      · omega
      · exact hshare d hd
  · rintro ⟨hlies, hle, hshare⟩
    rcases Nat.lt_or_ge first.start c.start with hgt | hge
    · have hout : first.stop ≤ c.start := by
        rcases Nat.lt_or_ge c.start first.stop with hin | hout
        · have hslash := hfirst.shares_slash hlies hgt hin
          exact absurd hslash.symm (hshare _ List.mem_cons_self)
        · exact hout
      refine List.mem_cons_of_mem _ ((hlater c).2 ⟨hlies, hout, ?_⟩)
      exact fun d hd => hshare d (List.mem_cons_of_mem _ hd)
    · have hstart : c.start = first.start := by omega
      rw [hlies.eq_of_start_eq hfirst hstart]
      exact List.mem_cons_self

end BlockComment

/-! ### The scan with its places -/

namespace Block

/-- What the scan finds in a text that starts at offset `i` and whose first `inside` characters belong
to a comment that was found before. -/
def commentsFrom : Nat → Nat → Text → List BlockComment
  | _, _, [] => []
  | inside + 1, i, _ :: s => commentsFrom inside (i + 1) s
  | 0, i, c :: s =>
    match comment? (c :: s) with
    | some (body, rest) =>
      ⟨i, body, i + (s.length + 1 - rest.length)⟩ :: commentsFrom (s.length - rest.length) (i + 1) s
    | none => commentsFrom 0 (i + 1) s

def comments (content : Text) : List BlockComment := commentsFrom 0 0 content

theorem bodiesAfter_eq (inside i : Nat) (s : Text) :
    bodiesAfter inside s = (commentsFrom inside i s).map BlockComment.body := by
  induction s generalizing inside i with
  | nil => cases inside <;> rfl
  | cons c s ih =>
    cases inside with
    | succ inside => exact ih inside (i + 1)
    | zero =>
      cases h : comment? (c :: s) with
      | none =>
        simp only [bodiesAfter, commentsFrom, h]
        exact ih 0 (i + 1)
      | some found =>
        simp only [bodiesAfter, commentsFrom, h, List.map_cons]
        rw [← ih]

theorem suppressions_eq (content : Text) :
    suppressions content = (comments content).flatMap BlockComment.suppressions := by
  rw [suppressions, bodies, bodiesAfter_eq 0 0 content, List.flatMap_map]
  rfl

theorem liesIn_of_comment? {content s body rest : Text} {i : Nat} (hs : content.drop i = s)
    (h : comment? s = some (body, rest)) :
    BlockComment.LiesIn content ⟨i, body, i + (s.length - rest.length)⟩ := by
  obtain ⟨hbody, hread⟩ := comment?_eq_some_iff.1 h
  have hsuffix : rest <:+ s := (List.suffix_append _ _).trans hread.suffix
  obtain ⟨front, hfront⟩ := hsuffix
  have hrest : content.drop (i + (s.length - rest.length)) = rest := by
    rw [← List.drop_drop, hs, ← hfront]
    simp
  have hlen := congrArg List.length hs
  have hne : 0 < s.length := by
    obtain ⟨middle, hshape, -⟩ := shape_of_readsBlock hbody hread
    rw [hshape]
    simp
  rw [List.length_drop] at hlen
  refine ⟨hbody, ?_, ?_⟩
  · dsimp only
    omega
  · dsimp only
    rw [hs, hrest]
    exact hread

/-- The scan finds the directives whose opening slash does not close one that it found. -/
theorem mem_commentsFrom_iff {content s : Text} {inside i : Nat} (hs : content.drop i = s)
    (c : BlockComment) :
    c ∈ commentsFrom inside i s ↔
      c.LiesIn content ∧ i + inside ≤ c.start ∧
        ∀ d ∈ commentsFrom inside i s, d.stop ≠ c.start + 1 := by
  induction s generalizing inside i c with
  | nil =>
    have hlen := congrArg List.length hs
    simp only [List.length_drop, List.length_nil] at hlen
    have hnone : commentsFrom inside i [] = [] := by cases inside <;> rfl
    rw [hnone]
    constructor
    · simp
    · rintro ⟨hlies, hle, -⟩
      have hlt := hlies.start_lt_length
      omega
  | cons x s ih =>
    have hnext : content.drop (i + 1) = s := drop_succ_of_drop_eq_cons hs
    cases inside with
    | succ inside =>
      have hstep : commentsFrom (inside + 1) i (x :: s) = commentsFrom inside (i + 1) s := rfl
      rw [hstep, ih hnext, show i + 1 + inside = i + (inside + 1) by omega]
    | zero =>
      cases h : comment? (x :: s) with
      | none =>
        have hstep : commentsFrom 0 i (x :: s) = commentsFrom 0 (i + 1) s := by simp [commentsFrom, h]
        rw [hstep, ih hnext]
        refine and_congr_right fun hlies => and_congr_left fun _ => ?_
        constructor
        · omega
        · intro hle
          have hne : c.start ≠ i := by
            intro e
            have hread := comment?_eq_some_iff.2 ⟨hlies.1, hlies.2.2⟩
            rw [e, hs, h] at hread
            simp at hread
          omega
      | some found =>
        obtain ⟨body, rest⟩ := found
        have hfirst := liesIn_of_comment? hs h
        simp only [List.length_cons] at hfirst
        have hlt := hfirst.start_lt_stop
        have hstop : i + 1 + (s.length - rest.length) = i + (s.length + 1 - rest.length) := by
          dsimp only at hlt
          omega
        have hstep : commentsFrom 0 i (x :: s)
            = ⟨i, body, i + (s.length + 1 - rest.length)⟩
              :: commentsFrom (s.length - rest.length) (i + 1) s := by
          simp [commentsFrom, h]
        have hlater := @ih (s.length - rest.length) (i + 1) hnext
        rw [hstop] at hlater
        rw [hstep]
        exact BlockComment.mem_cons_iff hfirst hlater c

theorem ordered_commentsFrom {content s : Text} {inside i : Nat} (hs : content.drop i = s) :
    (commentsFrom inside i s).Pairwise fun c d => c.start < d.start := by
  induction s generalizing inside i with
  | nil =>
    have hnone : commentsFrom inside i [] = [] := by cases inside <;> rfl
    rw [hnone]
    exact List.Pairwise.nil
  | cons x s ih =>
    have hnext : content.drop (i + 1) = s := drop_succ_of_drop_eq_cons hs
    cases inside with
    | succ inside => exact ih hnext
    | zero =>
      unfold commentsFrom
      split
      · next body rest h =>
        refine List.pairwise_cons.2 ⟨?_, ih hnext⟩
        intro d hd
        have hle := ((mem_commentsFrom_iff hnext d).1 hd).2.1
        dsimp only
        omega
      · exact ih hnext

theorem comments_enumerate (content : Text) :
    Enumerates BlockComment.start
      (fun c => c.LiesIn content ∧ ∀ d ∈ comments content, d.stop ≠ c.start + 1)
      (comments content) := by
  have hall : content.drop 0 = content := List.drop_zero
  refine ⟨ordered_commentsFrom hall, fun c => ?_⟩
  have h := @mem_commentsFrom_iff content content 0 0 hall c
  rw [Nat.zero_add] at h
  exact h.trans (and_congr_right fun _ => and_iff_right (Nat.zero_le _))

end Block

end SuppressionAudit

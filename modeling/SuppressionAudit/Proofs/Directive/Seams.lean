import SuppressionAudit.Directive.Extraction
import SuppressionAudit.Proofs.Directive.ExactPositions
import SuppressionAudit.Proofs.Directive.Extraction

/-!
# Texts that are joined

Where every block comment that opens in a text is closed in it, no directive reaches over its end: a
newline and another text behind it leave all that is found in it as it was, and what the other text holds
is found as before, further down. The reason is one asterisk. The end of a comment holds one, neither a
marker nor the body of a block directive goes past one, and the body of a qualified directive ends there.
-/

namespace SuppressionAudit

/-- Every block comment that opens in a text is closed in it, behind its opening. -/
def ClosesComments (a : Text) : Prop :=
  ∀ i, ['/', '*'] <+: a.drop i → ∃ j, i + 2 ≤ j ∧ ['*', '/'] <+: a.drop j

theorem lt_length_of_prefix_drop {c : Char} {literal a : Text} {i : Nat} (h : c :: literal <+: a.drop i) :
    i < a.length := by
  have hlen := h.length_le
  rw [List.length_cons, List.length_drop] at hlen
  omega

instance (a : Text) : Decidable (ClosesComments a) :=
  decidable_of_iff
    (∀ i < a.length, ['/', '*'] <+: a.drop i → ∃ j < a.length, i + 2 ≤ j ∧ ['*', '/'] <+: a.drop j)
    ⟨fun h i hopen =>
        let ⟨j, _, hle, hclose⟩ := h i (lt_length_of_prefix_drop hopen) hopen
        ⟨j, hle, hclose⟩,
      fun h i _ hopen =>
        let ⟨j, hle, hclose⟩ := h i hopen
        ⟨j, lt_length_of_prefix_drop hclose, hle, hclose⟩⟩

theorem ClosesComments.tail {c : Char} {s : Text} (h : ClosesComments (c :: s)) : ClosesComments s := by
  intro i hopen
  obtain ⟨j, hle, hclose⟩ := h (i + 1) hopen
  obtain ⟨k, rfl⟩ : ∃ k, j = k + 1 := ⟨j - 1, by omega⟩
  exact ⟨k, by omega, hclose⟩

/-- An opening at the start of a text is closed in what follows it. -/
theorem ClosesComments.infix_of_opening {inner : Text} (h : ClosesComments ('/' :: '*' :: inner)) :
    ['*', '/'] <:+: inner := by
  obtain ⟨j, hle, hclose⟩ := h 0 ⟨inner, rfl⟩
  obtain ⟨k, rfl⟩ : ∃ k, j = k + 2 := ⟨j - 2, by omega⟩
  exact hclose.isInfix.trans (List.drop_suffix k inner).isInfix

theorem infix_of_infix_append {c : Char} {literal front rest : Text} (hfront : c ∉ front)
    (h : c :: literal <:+: front ++ rest) : c :: literal <:+: rest := by
  induction front with
  | nil => exact h
  | cons d front ih =>
    rw [List.mem_cons, not_or] at hfront
    rcases List.infix_cons_iff.1 h with hhere | hlater
    · exact absurd (List.cons_prefix_cons.1 hhere).1 hfront.1
    · exact ih hfront.2 hlater

/-! ### Markers -/

section Markers

variable {qualifiers : List Text} {separates : Char → Bool}

/-- The marker of a block comment reads on its opening and a front of what follows, which holds no asterisk. -/
theorem readsMarker_inside_iff (hqualifiers : ∀ q ∈ qualifiers, '*' ∉ q) (hseparates : separates '*' = false)
    {inner rest : Text} :
    ReadsMarker ['/', '*'] qualifiers separates ('/' :: '*' :: inner) rest ↔
      ∃ front, inner = front ++ rest ∧ '*' ∉ front ∧ (∀ c ∈ rest.head?, separates c = false) ∧
        ReadsMarker ['/', '*'] qualifiers separates ('/' :: '*' :: front) [] := by
  constructor
  · rintro ⟨blanks, qualifier, gap, hs, hblanks, hqualifier, hne, hrun⟩
    refine ⟨blanks ++ "eslint-disable".toList ++ qualifier ++ gap, ?_, ?_, hrun.stops, ?_⟩
    · simpa using hs
    · have hblank : '*' ∉ blanks := fun hmem => absurd (hblanks '*' hmem) (by decide)
      have hgap : '*' ∉ gap := by
        intro hmem
        rw [hrun.inside '*' hmem] at hseparates
        exact Bool.noConfusion hseparates
      simp only [List.mem_append, not_or]
      exact ⟨⟨⟨hblank, by decide⟩, hqualifiers qualifier hqualifier⟩, hgap⟩
    · exact ⟨blanks, qualifier, gap, by simp, hblanks, hqualifier, hne, hrun.inside, by simp⟩
  · rintro ⟨front, rfl, -, hstops, blanks, qualifier, gap, hs, hblanks, hqualifier, hne, hrun⟩
    refine ⟨blanks, qualifier, gap, ?_, hblanks, hqualifier, hne, hrun.inside, hstops⟩
    rw [List.append_nil] at hs
    rw [← hs]
    rfl

theorem ReadsMarker.infix_rest (hqualifiers : ∀ q ∈ qualifiers, '*' ∉ q) (hseparates : separates '*' = false)
    {inner rest : Text} (hclose : ['*', '/'] <:+: inner)
    (h : ReadsMarker ['/', '*'] qualifiers separates ('/' :: '*' :: inner) rest) : ['*', '/'] <:+: rest := by
  obtain ⟨front, rfl, hstar, -⟩ := (readsMarker_inside_iff hqualifiers hseparates).1 h
  exact infix_of_infix_append hstar hclose

/-- What stands behind an asterisk does not matter to a marker. -/
theorem readsMarker_append_iff (hqualifiers : ∀ q ∈ qualifiers, '*' ∉ q) (hseparates : separates '*' = false)
    {inner : Text} (hclose : ['*', '/'] <:+: inner) (t found : Text) :
    ReadsMarker ['/', '*'] qualifiers separates ('/' :: '*' :: (inner ++ t)) found ↔
      ∃ rest, ReadsMarker ['/', '*'] qualifiers separates ('/' :: '*' :: inner) rest ∧ rest ++ t = found := by
  have hstar : '*' ∈ inner := hclose.subset List.mem_cons_self
  have hhead : ∀ {rest : Text}, ['*', '/'] <:+: rest → (rest ++ t).head? = rest.head? := by
    intro rest hrest
    cases rest with
    | nil => exact absurd (List.infix_nil.1 hrest) (List.cons_ne_nil _ _)
    | cons c rest => rfl
  constructor
  · intro h
    obtain ⟨front, hfront, hfree, hstops, hmarker⟩ := (readsMarker_inside_iff hqualifiers hseparates).1 h
    rcases List.append_eq_append_iff.1 hfront with ⟨more, hmore, -⟩ | ⟨rest, hrest, hfound⟩
    · rw [hmore] at hfree
      exact absurd (List.mem_append_left _ hstar) hfree
    · subst hfound
      have hin : ['*', '/'] <:+: rest := infix_of_infix_append hfree (hrest ▸ hclose)
      rw [hhead hin] at hstops
      exact ⟨rest, (readsMarker_inside_iff hqualifiers hseparates).2 ⟨front, hrest, hfree, hstops, hmarker⟩, rfl⟩
  · rintro ⟨rest, h, rfl⟩
    have hin := h.infix_rest hqualifiers hseparates hclose
    obtain ⟨front, rfl, hfree, hstops, hmarker⟩ := (readsMarker_inside_iff hqualifiers hseparates).1 h
    refine (readsMarker_inside_iff hqualifiers hseparates).2 ⟨front, by simp, hfree, ?_, hmarker⟩
    rw [hhead hin]
    exact hstops

/-- The comment of a marker ends in what follows the marker. -/
theorem ReadsMarker.closing_in_rest (hqualifiers : ∀ q ∈ qualifiers, '*' ∉ q) (hseparates : separates '*' = false)
    {s rest : Text} (hclosed : ClosesComments s) (h : ReadsMarker ['/', '*'] qualifiers separates s rest) :
    ['*', '/'] <:+: rest := by
  obtain ⟨inner, rfl⟩ := h.opens
  exact h.infix_rest hqualifiers hseparates hclosed.infix_of_opening

/-- A newline and a text behind a text that closes its comments change the rest of a marker only. -/
theorem readsMarker_append_newline_iff (hqualifiers : ∀ q ∈ qualifiers, '*' ∉ q)
    (hseparates : separates '*' = false) {s : Text} (hne : s ≠ []) (hclosed : ClosesComments s) (b found : Text) :
    ReadsMarker ['/', '*'] qualifiers separates (s ++ '\n' :: b) found ↔
      ∃ rest, ReadsMarker ['/', '*'] qualifiers separates s rest ∧ rest ++ '\n' :: b = found := by
  by_cases hopen : ['/', '*'] <+: s
  · obtain ⟨inner, rfl⟩ := hopen
    exact readsMarker_append_iff hqualifiers hseparates hclosed.infix_of_opening _ _
  · constructor
    · intro h
      refine absurd ?_ hopen
      -- the newline is no asterisk
      obtain ⟨c, s, rfl⟩ := List.exists_cons_of_ne_nil hne
      obtain ⟨more, hmore⟩ := h.opens
      cases s with
      | nil => exact absurd (List.cons.inj (List.cons.inj hmore).2).1 (by decide)
      | cons d s =>
        obtain ⟨rfl, hrest⟩ := List.cons.inj hmore
        obtain ⟨rfl, -⟩ := List.cons.inj hrest
        exact ⟨s, rfl⟩
    · rintro ⟨rest, h, -⟩
      exact absurd h.opens hopen

end Markers

namespace Marker

variable {s : Text} (hne : s ≠ []) (hclosed : ClosesComments s) (b : Text)

include hne hclosed

theorem qualified?_append_newline :
    qualified? (s ++ '\n' :: b) = (qualified? s).map (· ++ '\n' :: b) := by
  refine Option.ext fun found => ?_
  rw [qualified?_eq_some_iff, ReadsQualified,
    readsMarker_append_newline_iff (by decide) (by decide) hne hclosed, Option.map_eq_some_iff]
  simp only [qualified?_eq_some_iff, ReadsQualified]

end Marker

/-! ### Block directives -/

namespace Block

theorem comment?_append_newline {s : Text} (hne : s ≠ []) (hclosed : ClosesComments s) (b : Text) :
    comment? (s ++ '\n' :: b) = (comment? s).map fun found => (found.1, found.2 ++ '\n' :: b) := by
  refine Option.ext fun ⟨body, found⟩ => ?_
  rw [comment?_eq_some_iff, ReadsBlock, readsMarker_append_newline_iff (by decide) (by decide) hne hclosed,
    Option.map_eq_some_iff]
  constructor
  · rintro ⟨hbody, rest, hread, hrest⟩
    -- the end of the comment lies in front of the newline
    have hin := hread.closing_in_rest (by decide) (by decide) hclosed
    rw [List.append_assoc] at hrest
    rcases List.append_eq_append_iff.1 hrest with ⟨more, hmore, -⟩ | ⟨tail, hrest, htail⟩
    · rw [hmore] at hbody
      exact absurd (List.mem_append_left _ (hin.subset List.mem_cons_self)) hbody
    · rw [hrest] at hin hread
      obtain ⟨x, y, tail, rfl⟩ : ∃ x y more, tail = x :: y :: more := by
        have hlen := (infix_of_infix_append hbody hin).length_le
        match tail, hlen with
        | x :: y :: more, _ => exact ⟨x, y, more, rfl⟩
      obtain ⟨rfl, hslash⟩ := List.cons.inj htail
      obtain ⟨rfl, rfl⟩ := List.cons.inj hslash
      refine ⟨(body, tail), comment?_eq_some_iff.2 ⟨hbody, ?_⟩, rfl⟩
      rw [List.append_assoc]
      exact hread
  · rintro ⟨⟨body', rest⟩, hcomment, hfound⟩
    simp only [Prod.mk.injEq] at hfound
    obtain ⟨rfl, rfl⟩ := hfound
    obtain ⟨hbody, hread⟩ := comment?_eq_some_iff.1 hcomment
    exact ⟨hbody, _, hread, by simp only [List.append_assoc]⟩

/-- The scan finds in the first text what it finds there alone, and goes on behind the newline. -/
theorem bodiesAfter_append_newline {inside : Nat} {s : Text} (hclosed : ClosesComments s) (hinside : inside ≤ s.length)
    (b : Text) : bodiesAfter inside (s ++ '\n' :: b) = bodiesAfter inside s ++ bodiesAfter 0 b := by
  induction s generalizing inside with
  | nil =>
    obtain rfl : inside = 0 := Nat.le_zero.1 hinside
    rfl
  | cons c s ih =>
    cases inside with
    | succ inside => exact ih hclosed.tail (Nat.le_of_succ_le_succ hinside)
    | zero =>
      have hcomment := comment?_append_newline (List.cons_ne_nil c s) hclosed b
      rw [List.cons_append] at hcomment ⊢
      cases h : comment? (c :: s) with
      | none =>
        simp only [bodiesAfter, hcomment, h, Option.map_none]
        exact ih hclosed.tail (Nat.zero_le _)
      | some found =>
        have hrest : (s ++ '\n' :: b).length - (found.2 ++ '\n' :: b).length
            = s.length - found.2.length := by
          rw [List.length_append, List.length_append, Nat.add_sub_add_right]
        simp only [bodiesAfter, hcomment, h, Option.map_some, hrest, ih hclosed.tail (Nat.sub_le _ _),
          List.cons_append]

theorem suppressions_append_newline {a : Text} (hclosed : ClosesComments a) (b : Text) :
    suppressions (a ++ '\n' :: b) = suppressions a ++ suppressions b := by
  rw [suppressions, bodies, bodiesAfter_append_newline hclosed (Nat.zero_le _), List.flatMap_append]
  rfl

end Block

/-! ### Moving down -/

/-- The position `rows` lines further down. -/
def Position.down (rows : Nat) (p : Position) : Position := ⟨p.line + rows, p.column⟩

namespace Position

theorem next_down (rows : Nat) (p : Position) (c : Char) : (p.down rows).next c = (p.next c).down rows := by
  unfold next down
  split
  · rw [Nat.add_right_comm]
  · rfl

theorem after_down (rows : Nat) (p : Position) (s : Text) : (p.down rows).after s = (p.after s).down rows := by
  induction s generalizing p with
  | nil => rfl
  | cons c s ih => rw [after_cons, after_cons, next_down, ih]

/-- Behind a text and a newline the first line is one further down than there are newlines. -/
theorem start_after_newline (a : Text) : (start.after a).next '\n' = start.down (a.count '\n' + 1) := by
  rw [next, if_pos rfl, after_line]
  simp only [down, start, Nat.add_assoc]

end Position

/-- The suppression with its position `rows` lines further down, and all else as it was. -/
def Suppression.down (rows : Nat) (s : Suppression) : Suppression :=
  { s with position := s.position.down rows }

theorem Suppression.le_down (rows : Nat) (s t : Suppression) : (s.down rows).le (t.down rows) = s.le t := by
  rw [Bool.eq_iff_iff, le_iff, le_iff]
  simp only [down, Position.down, Nat.add_lt_add_iff_right, Nat.add_right_cancel_iff]

theorem RuleList.suppressionsAt_down (list : RuleList) (kind : SuppressionKind) (rows : Nat)
    (place : RuleMention → Position) :
    list.suppressionsAt kind (fun mention => (place mention).down rows)
      = (list.suppressionsAt kind place).map (Suppression.down rows) := by
  rw [suppressionsAt, suppressionsAt, List.map_map]
  rfl

/-! ### Qualified directives -/

namespace Qualified

theorem bodyOf_append {s : Text} (hclose : ['*', '/'] <:+: s) (t : Text) : bodyOf (s ++ t) = bodyOf s := by
  have hne : Marker.blockClosing ≠ [] := by decide
  unfold bodyOf
  cases h : Text.splitAtFirst? Marker.blockClosing s with
  | none => exact absurd hclose ((Text.splitAtFirst?_eq_none_iff hne).1 h)
  | some found => rw [Text.splitAtFirst?_append hne h]

theorem suppressionsHere_append_newline {s : Text} (hne : s ≠ []) (hclosed : ClosesComments s) (p : Position)
    (b : Text) : suppressionsHere p (s ++ '\n' :: b) = suppressionsHere p s := by
  unfold suppressionsHere
  rw [Marker.qualified?_append_newline hne hclosed]
  cases h : Marker.qualified? s with
  | none => rfl
  | some rest =>
    have hin := (Marker.qualified?_eq_some_iff.1 h).closing_in_rest (by decide) (by decide) hclosed
    have hfront : (s ++ '\n' :: b).take ((s ++ '\n' :: b).length - (rest ++ '\n' :: b).length)
        = s.take (s.length - rest.length) := by
      rw [List.length_append, List.length_append, Nat.add_sub_add_right,
        List.take_append_of_le_length (Nat.sub_le _ _)]
    simp only [Option.map_some, bodyOf_append hin, hfront]

theorem suppressionsFrom_append_newline {s : Text} (hclosed : ClosesComments s) (p : Position) (b : Text) :
    suppressionsFrom p (s ++ '\n' :: b)
      = suppressionsFrom p s ++ suppressionsFrom ((p.after s).next '\n') b := by
  induction s generalizing p with
  | nil => rfl
  | cons c s ih =>
    have hhere := suppressionsHere_append_newline (List.cons_ne_nil c s) hclosed p b
    rw [List.cons_append] at hhere ⊢
    rw [suppressionsFrom, suppressionsFrom, hhere, ih hclosed.tail, List.append_assoc, Position.after_cons]

theorem suppressionsHere_down (rows : Nat) (p : Position) (s : Text) :
    suppressionsHere (p.down rows) s = (suppressionsHere p s).map (Suppression.down rows) := by
  unfold suppressionsHere
  cases Marker.qualified? s with
  | none => rfl
  | some rest => simp only [Position.after_down, RuleList.suppressionsAt_down]

theorem suppressionsFrom_down (rows : Nat) (p : Position) (s : Text) :
    suppressionsFrom (p.down rows) s = (suppressionsFrom p s).map (Suppression.down rows) := by
  induction s generalizing p with
  | nil => rfl
  | cons c s ih =>
    rw [suppressionsFrom, suppressionsFrom, List.map_append, suppressionsHere_down, Position.next_down, ih]

theorem suppressions_append_newline {a : Text} (hclosed : ClosesComments a) (b : Text) :
    suppressions (a ++ '\n' :: b)
      = suppressions a ++ (suppressions b).map (Suppression.down (a.count '\n' + 1)) := by
  rw [suppressions, suppressionsFrom_append_newline hclosed, Position.start_after_newline,
    suppressionsFrom_down]
  rfl

end Qualified

/-! ### Line comments -/

namespace LineComment

theorem suppressionsOn_down (rows line : Nat) (s : Text) :
    suppressionsOn (line + rows) s = (suppressionsOn line s).map (Suppression.down rows) := by
  unfold suppressionsOn
  cases body? (Text.dropReturns s) with
  | none => rfl
  | some found =>
    obtain ⟨start, body⟩ := found
    exact RuleList.suppressionsAt_down _ _ rows fun mention => ⟨line, start + mention.offset + 1⟩

theorem suppressionsFrom_down (rows line : Nat) (lines : List Text) :
    suppressionsFrom (line + rows) lines = (suppressionsFrom line lines).map (Suppression.down rows) := by
  induction lines generalizing line with
  | nil => rfl
  | cons s lines ih =>
    rw [suppressionsFrom, suppressionsFrom, List.map_append, suppressionsOn_down, Nat.add_right_comm, ih]

theorem suppressions_append_newline (a b : Text) :
    suppressions (a ++ '\n' :: b)
      = suppressions a ++ (suppressions b).map (Suppression.down (a.count '\n' + 1)) := by
  rw [suppressions, Text.lines, Text.splitOn_append, suppressionsFrom_append, Text.length_splitOn,
    suppressionsFrom_down]
  rfl

end LineComment

/-! ### The two forms together -/

theorem StandsAt.line_le {content : Text} {offset : Nat} {p : Position} (h : StandsAt content offset p) :
    p.line ≤ content.count '\n' + 1 := by
  rw [h.line]
  exact Nat.succ_le_succ ((List.take_sublist offset content).count_le '\n')

theorem line_of_mem_lineForms {content : Text} {s : Suppression}
    (h : s ∈ Qualified.suppressions content ∨ s ∈ LineComment.suppressions content) :
    1 ≤ s.position.line ∧ s.position.line ≤ content.count '\n' + 1 := by
  obtain ⟨-, offset, -, -, hstands⟩ := exact_of_mem_lineForms h
  exact ⟨hstands.one_le.1, hstands.line_le⟩

/-- The line forms of the second text come behind those of the first, in the order they had. -/
theorem lineFormSuppressions_append_newline {a : Text} (hclosed : ClosesComments a) (b : Text) :
    lineFormSuppressions (a ++ '\n' :: b)
      = lineFormSuppressions a ++ (lineFormSuppressions b).map (Suppression.down (a.count '\n' + 1)) := by
  let rows := a.count '\n' + 1
  let low : Suppression → Bool := fun s => s.position.line ≤ rows
  have hbelow : ∀ s t, low s = true → low t = false → Suppression.le t s = false := by
    intro s t hs ht
    simp only [low, decide_eq_true_eq, decide_eq_false_iff_not] at hs ht
    rw [Bool.eq_false_iff, ne_eq, Suppression.le_iff]
    omega
  have hfirst : ∀ s ∈ Qualified.suppressions a ++ LineComment.suppressions a, low s = true :=
    fun s hs => decide_eq_true (line_of_mem_lineForms (List.mem_append.1 hs)).2
  have hsecond : ∀ s ∈ (Qualified.suppressions b).map (Suppression.down rows)
      ++ (LineComment.suppressions b).map (Suppression.down rows), low s = false := by
    intro s hs
    rw [← List.map_append] at hs
    obtain ⟨t, ht, rfl⟩ := List.mem_map.1 hs
    have hline := (line_of_mem_lineForms (List.mem_append.1 ht)).1
    simp only [low, Suppression.down, Position.down, decide_eq_false_iff_not]
    omega
  rw [lineFormSuppressions, Qualified.suppressions_append_newline hclosed,
    LineComment.suppressions_append_newline, stableSort_interleaved Suppression.ranks hbelow hfirst hsecond,
    ← List.map_append, stableSort_map (Suppression.le_down rows)]
  rfl

/-! ### The two kinds apart -/

theorem kind_of_mem_lineFormSuppressions {content : Text} {s : Suppression}
    (h : s ∈ lineFormSuppressions content) : s.kind = .line := by
  rw [lineFormSuppressions, mem_stableSort, List.mem_append] at h
  exact (exact_of_mem_lineForms h).1

theorem filter_block_extractSuppressions (content : Text) :
    (extractSuppressions content).filter (fun s => s.kind = .block) = Block.suppressions content := by
  rw [extractSuppressions, List.filter_append, List.filter_eq_self.2, List.filter_eq_nil_iff.2, List.append_nil]
  · intro s hs
    simp [kind_of_mem_lineFormSuppressions hs]
  · intro s hs
    simp [(Block.position_eq hs).1]

theorem filter_line_extractSuppressions (content : Text) :
    (extractSuppressions content).filter (fun s => s.kind = .line) = lineFormSuppressions content := by
  rw [extractSuppressions, List.filter_append, List.filter_eq_nil_iff.2, List.filter_eq_self.2, List.nil_append]
  · intro s hs
    simp [kind_of_mem_lineFormSuppressions hs]
  · intro s hs
    simp [(Block.position_eq hs).1]

/-- In a text behind another one that closes its comments, every suppression is found as in the text alone:
the block directives of the two come first, then their line forms, and those of the second text stand as
many lines further down as the first text and the newline take. -/
theorem extractSuppressions_append_newline (a b : Text) (hclosed : ClosesComments a) :
    extractSuppressions (a ++ ['\n'] ++ b)
      = (extractSuppressions a).filter (fun s => s.kind = .block)
        ++ (extractSuppressions b).filter (fun s => s.kind = .block)
        ++ (extractSuppressions a).filter (fun s => s.kind = .line)
        ++ ((extractSuppressions b).filter fun s => s.kind = .line).map
            (Suppression.down (a.count '\n' + 1)) := by
  rw [filter_block_extractSuppressions, filter_block_extractSuppressions, filter_line_extractSuppressions,
    filter_line_extractSuppressions, List.append_assoc a, List.singleton_append, extractSuppressions,
    Block.suppressions_append_newline hclosed, lineFormSuppressions_append_newline hclosed]
  simp only [List.append_assoc]

/-- A comment over two lines and a slash at the end of the first text; the second begins in the middle of
a comment. -/
theorem extractSuppressions_of_joined_texts :
    ClosesComments "a /* eslint-disable-line x,\ny */ /* eslint-disable z */ /".toList ∧
    extractSuppressions ("a /* eslint-disable-line x,\ny */ /* eslint-disable z */ /".toList ++ ['\n']
        ++ "* eslint-disable q */ // eslint-disable-line w\n/* eslint-disable v */".toList)
      = [⟨['z'], ⟨1, 1⟩, none, .block⟩, ⟨['v'], ⟨1, 1⟩, none, .block⟩, ⟨['x'], ⟨1, 26⟩, none, .line⟩,
          ⟨['y'], ⟨2, 1⟩, none, .line⟩, ⟨['w'], ⟨3, 46⟩, none, .line⟩] := by
  have hclosed : ClosesComments "a /* eslint-disable-line x,\ny */ /* eslint-disable z */ /".toList := by
    decide +kernel
  refine ⟨hclosed, ?_⟩
  rw [extractSuppressions_append_newline _ _ hclosed]
  decide +kernel

end SuppressionAudit

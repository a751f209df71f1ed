import SuppressionAudit.Directive.LineComment
import SuppressionAudit.Directive.Qualified
import SuppressionAudit.Proofs.Directive.Markers
import SuppressionAudit.Proofs.Directive.Places
import SuppressionAudit.Proofs.Directive.RuleLists

/-!
# Line forms by place

A qualified directive lies wherever a text reads as its marker; its body runs to the first end of a
comment, or else to the end of the line. A line comment directive is the leftmost one of its line, and
its body is all that follows. The two scans find exactly these, and the places that they report are the
places of the rule names in the text.
-/

namespace SuppressionAudit

/-- `body` is the rule list in the text behind the marker of a qualified directive. -/
def ReadsBody (s body : Text) : Prop :=
  (∃ after, SplitsAtFirst ['*', '/'] s body after) ∨
    (¬ ['*', '/'] <:+: s ∧ ∃ after, s = body ++ after ∧ '\n' ∉ body ∧ ∀ c ∈ after.head?, c = '\n')

/-- A qualified directive in a text: where it opens, where its rule list starts, and the list. -/
structure QualifiedDirective where
  start : Nat
  bodyStart : Nat
  body : Text

namespace QualifiedDirective

/-- Whether a directive lies in a text. -/
def LiesIn (content : Text) (d : QualifiedDirective) : Prop :=
  d.bodyStart ≤ content.length ∧
    ReadsQualified (content.drop d.start) (content.drop d.bodyStart) ∧
    ReadsBody (content.drop d.bodyStart) d.body

def suppressions (content : Text) (d : QualifiedDirective) : List Suppression :=
  (RuleList.parse d.body).rules.map fun mention =>
    ⟨mention.name, positionAt content (d.bodyStart + mention.offset),
      (RuleList.parse d.body).justification, .line⟩

end QualifiedDirective

/-- A line comment directive in a text: the number of lines before its own, where its rule list starts
on the line, and the list. -/
structure LineDirective where
  row : Nat
  bodyStart : Nat
  body : Text

namespace LineDirective

/-- Whether a directive lies in a text: on a line without its final carriage returns, it is the
leftmost one, and its list is the rest of the line. -/
def LiesIn (content : Text) (d : LineDirective) : Prop :=
  ∃ line returns start, (List.splitOn '\n' content)[d.row]? = some (line ++ List.replicate returns '\r') ∧
    line.getLast? ≠ some '\r' ∧ d.bodyStart ≤ line.length ∧ d.body = line.drop d.bodyStart ∧
    ReadsLineComment (line.drop start) d.body ∧
    ∀ j < start, ∀ rest, ¬ ReadsLineComment (line.drop j) rest

def suppressions (d : LineDirective) : List Suppression :=
  (RuleList.parse d.body).rules.map fun mention =>
    ⟨mention.name, ⟨d.row + 1, d.bodyStart + mention.offset + 1⟩,
      (RuleList.parse d.body).justification, .line⟩

end LineDirective

/-! ### Qualified directives -/

namespace Qualified

theorem bodyOf_eq_iff {s body : Text} : bodyOf s = body ↔ ReadsBody s body := by
  have hne : Marker.blockClosing ≠ [] := by decide
  unfold bodyOf
  cases h : Text.splitAtFirst? Marker.blockClosing s with
  | some p =>
    obtain ⟨before, after⟩ := p
    have hsplit := (Text.splitAtFirst?_eq_some_iff hne).1 h
    have hinfix : Marker.blockClosing <:+: s := ⟨before, after, hsplit.eq.symm⟩
    constructor
    · rintro rfl
      exact .inl ⟨after, hsplit⟩
    · rintro (⟨after', hsplit'⟩ | ⟨hnot, -⟩)
      · have h' := (Text.splitAtFirst?_eq_some_iff hne).2 hsplit'
        rw [h, Option.some.injEq, Prod.mk.injEq] at h'
        exact h'.1
      · exact absurd hinfix hnot
  | none =>
    have hnot := (Text.splitAtFirst?_eq_none_iff hne).1 h
    have hrun := Run.of_takeWhile (fun c => c != '\n') s
    constructor
    · rintro rfl
      refine .inr ⟨hnot, _, List.takeWhile_append_dropWhile.symm, ?_, ?_⟩
      · exact fun hmem => by simpa using hrun.inside '\n' hmem
      · intro c hc
        simpa using hrun.stops c hc
    · rintro (⟨after, hsplit⟩ | ⟨-, after, hs, hbody, hafter⟩)
      · exact absurd ⟨body, after, hsplit.eq.symm⟩ hnot
      · have hline : Run (fun c => c != '\n') body after := by
          refine ⟨fun c hc => ?_, fun c hc => by simp [hafter c hc]⟩
          have hc' : c ≠ '\n' := fun e => hbody (e ▸ hc)
          simpa using hc'
        rw [hs]
        exact hline.takeWhile_eq

theorem bodyOf_prefix (s : Text) : bodyOf s <+: s := by
  rcases bodyOf_eq_iff.1 (rfl : bodyOf s = bodyOf s) with ⟨after, hsplit⟩ | ⟨-, after, hs, -⟩
  · exact ⟨Marker.blockClosing ++ after, by rw [← List.append_assoc]; exact hsplit.eq.symm⟩
  · exact ⟨after, hs.symm⟩

def directiveAt? (content : Text) (i : Nat) : Option QualifiedDirective :=
  (Marker.qualified? (content.drop i)).map fun rest => ⟨i, content.length - rest.length, bodyOf rest⟩

/-- The directives of a text, from left to right. -/
def directives (content : Text) : List QualifiedDirective :=
  (List.range content.length).filterMap (directiveAt? content)

theorem drop_of_suffix {content rest : Text} {i : Nat} (h : rest <:+ content.drop i) :
    content.drop (content.length - rest.length) = rest := by
  have hsuffix : rest <:+ content := h.trans (List.drop_suffix i content)
  exact (List.suffix_iff_eq_drop.1 hsuffix).symm

theorem directiveAt?_eq_some_iff {content : Text} {i : Nat} {d : QualifiedDirective} :
    directiveAt? content i = some d ↔ d.LiesIn content ∧ d.start = i := by
  constructor
  · intro h
    obtain ⟨rest, hrest, rfl⟩ := Option.map_eq_some_iff.1 h
    have hread := Marker.qualified?_eq_some_iff.1 hrest
    have htail := drop_of_suffix hread.suffix
    refine ⟨⟨Nat.sub_le _ _, ?_, ?_⟩, rfl⟩
    · dsimp only
      rw [htail]
      exact hread
    · dsimp only
      rw [htail]
      exact bodyOf_eq_iff.1 rfl
  · rintro ⟨⟨hle, hread, hbody⟩, rfl⟩
    have hrest := Marker.qualified?_eq_some_iff.2 hread
    refine Option.map_eq_some_iff.2 ⟨_, hrest, ?_⟩
    have hstart : content.length - (content.drop d.bodyStart).length = d.bodyStart := by
      rw [List.length_drop]
      omega
    rw [hstart, bodyOf_eq_iff.2 hbody]

theorem directives_enumerate (content : Text) :
    Enumerates QualifiedDirective.start (QualifiedDirective.LiesIn content) (directives content) := by
  refine Enumerates.of_reader (fun i d => directiveAt?_eq_some_iff) ?_
  rintro d ⟨-, hread, -⟩
  have hpos := List.length_pos_iff.2 hread.ne_nil
  rw [List.length_drop] at hpos
  omega

theorem suppressionsHere_eq (content : Text) (i : Nat) :
    suppressionsHere (positionAt content i) (content.drop i)
      = (directiveAt? content i).toList.flatMap (QualifiedDirective.suppressions content) := by
  unfold suppressionsHere directiveAt?
  cases h : Marker.qualified? (content.drop i) with
  | none => rfl
  | some rest =>
    have hsuffix := (Marker.qualified?_eq_some_iff.1 h).suffix
    have htail := drop_of_suffix hsuffix
    have hlen := hsuffix.length_le
    rw [List.length_drop] at hlen
    simp only [Option.map_some, Option.toList_some, List.flatMap_cons, List.flatMap_nil,
      List.append_nil, QualifiedDirective.suppressions, RuleList.suppressionsAt]
    refine List.map_congr_left fun mention hmem => ?_
    have hoffset := (RuleList.writes_of_mem_parse hmem).offset_le
    obtain ⟨after, hbody⟩ := bodyOf_prefix rest
    have hplace : (positionAt content i).after
        ((content.drop i).take ((content.drop i).length - rest.length))
          = positionAt content (content.length - rest.length) := by
      rw [positionAt_add, List.length_drop]
      rcases Nat.lt_or_ge content.length i with hout | hin
      · -- nothing lies behind the end of a text
        have hnil : content.drop i = [] := List.drop_of_length_le (by omega)
        exact absurd hnil (Marker.qualified?_eq_some_iff.1 h).ne_nil
      · congr 1
        omega
    -- the offset of a name counts in the body, which is the front of what follows the marker
    have hname : (bodyOf rest).take mention.offset
        = (content.drop (content.length - rest.length)).take mention.offset := by
      rw [htail]
      conv => rhs; rw [← hbody]
      rw [List.take_append_of_le_length hoffset]
    rw [hplace, hname, positionAt_add]

theorem suppressions_eq (content : Text) :
    suppressions content = (directives content).flatMap (QualifiedDirective.suppressions content) := by
  have hscan := @scan_eq_flatMap_filterMap _ _ _ content
    (fun i s => suppressionsFrom (positionAt content i) s) (directiveAt? content)
    (QualifiedDirective.suppressions content) (fun _ => rfl)
  refine hscan fun i c s hs => ?_
  have hplace : (positionAt content i).next c = positionAt content (i + 1) := by
    have hone := positionAt_add content i 1
    rw [hs] at hone
    exact hone
  rw [suppressionsFrom, hplace, ← hs, suppressionsHere_eq]

end Qualified

/-! ### Line comments -/

namespace LineComment

theorem suppressionsFrom_append (line : Nat) (rows more : List Text) :
    suppressionsFrom line (rows ++ more)
      = suppressionsFrom line rows ++ suppressionsFrom (line + rows.length) more := by
  induction rows generalizing line with
  | nil => rfl
  | cons row rows ih =>
    rw [List.cons_append, suppressionsFrom, suppressionsFrom, ih, List.append_assoc, List.length_cons,
      Nat.add_right_comm, Nat.add_assoc line]

/-- The leftmost line comment directive of a line: where its rule list starts, and the list. -/
structure Leftmost (s : Text) (bodyStart : Nat) (body : Text) : Prop where
  le : bodyStart ≤ s.length
  rest : body = s.drop bodyStart
  reads : ∃ start, ReadsLineComment (s.drop start) body ∧ ∀ j < start, ∀ found, ¬ ReadsLineComment (s.drop j) found

section Leftmost

variable {c : Char} {s body found : Text} {bodyStart : Nat}

/-- A directive at the start of a line is its leftmost one. -/
theorem leftmost_iff_of_reads (h : ReadsLineComment s found) :
    Leftmost s bodyStart body ↔ bodyStart = s.length - found.length ∧ body = found := by
  have hrest : found = s.drop (s.length - found.length) := List.suffix_iff_eq_drop.1 h.suffix
  constructor
  · rintro ⟨hle, hbody, start, hread, hleft⟩
    have hzero : start = 0 := by
      by_contra hne
      exact hleft 0 (Nat.pos_of_ne_zero hne) found h
    rw [hzero] at hread
    obtain rfl : body = found := hread.unique h
    have hlen := congrArg List.length hbody
    rw [List.length_drop] at hlen
    exact ⟨by omega, rfl⟩
  · rintro ⟨rfl, rfl⟩
    exact ⟨Nat.sub_le _ _, hrest, 0, h, by simp⟩

/-- Where none starts at the first character, the leftmost one is that of the rest of the line. -/
theorem leftmost_cons_iff (hnone : ∀ found, ¬ ReadsLineComment (c :: s) found) :
    Leftmost (c :: s) bodyStart body ↔ ∃ n, bodyStart = n + 1 ∧ Leftmost s n body := by
  constructor
  · rintro ⟨hle, hbody, start, hread, hleft⟩
    obtain ⟨start, rfl⟩ : ∃ n, start = n + 1 := by
      refine Nat.exists_eq_succ_of_ne_zero ?_
      rintro rfl
      exact hnone body hread
    obtain ⟨n, rfl⟩ : ∃ n, bodyStart = n + 1 := by
      refine Nat.exists_eq_succ_of_ne_zero ?_
      rintro rfl
      -- the body would be the whole line, but it lies behind the marker
      have hlen := hread.suffix.length_le
      rw [hbody, List.drop_zero, List.drop_succ_cons, List.length_drop, List.length_cons] at hlen
      omega
    refine ⟨n, rfl, Nat.le_of_succ_le_succ hle, hbody, start, hread, ?_⟩
    exact fun j hj => hleft (j + 1) (Nat.succ_lt_succ hj)
  · rintro ⟨n, rfl, hle, hbody, start, hread, hleft⟩
    refine ⟨Nat.succ_le_succ hle, hbody, start + 1, hread, ?_⟩
    intro j hj
    cases j with
    | zero => exact hnone
    | succ j => exact hleft j (Nat.lt_of_succ_lt_succ hj)

theorem body?_eq_some_iff : body? s = some (bodyStart, body) ↔ Leftmost s bodyStart body := by
  induction s generalizing bodyStart body with
  | nil =>
    constructor
    · simp [body?]
    · rintro ⟨-, -, start, hread, -⟩
      exact absurd List.drop_nil hread.ne_nil
  | cons c s ih =>
    cases h : Marker.lineComment? (c :: s) with
    | some found =>
      rw [leftmost_iff_of_reads (Marker.lineComment?_eq_some_iff.1 h)]
      simp only [body?, h, Option.some.injEq, Prod.mk.injEq]
      exact and_congr eq_comm eq_comm
    | none =>
      have hnone : ∀ found, ¬ ReadsLineComment (c :: s) found := by
        intro found hread
        rw [Marker.lineComment?_eq_some_iff.2 hread] at h
        exact Option.some_ne_none _ h
      rw [leftmost_cons_iff hnone]
      simp only [body?, h, Option.map_eq_some_iff, Prod.exists, Prod.mk.injEq, ih]
      constructor
      · rintro ⟨n, found, hfound, rfl, rfl⟩
        exact ⟨n, rfl, hfound⟩
      · rintro ⟨n, rfl, hfound⟩
        exact ⟨n, body, hfound, rfl, rfl⟩

end Leftmost

def directiveOn? (content : Text) (row : Nat) : Option LineDirective :=
  (Text.lines content)[row]?.bind fun line =>
    (body? (Text.dropReturns line)).map fun found => ⟨row, found.1, found.2⟩

def directives (content : Text) : List LineDirective :=
  (List.range (Text.lines content).length).filterMap (directiveOn? content)

theorem directiveOn?_eq_some_iff {content : Text} {row : Nat} {d : LineDirective} :
    directiveOn? content row = some d ↔ d.LiesIn content ∧ d.row = row := by
  unfold directiveOn? LineDirective.LiesIn
  rw [Option.bind_eq_some_iff, Text.lines, Text.splitOn_eq]
  constructor
  · rintro ⟨raw, hraw, hbody⟩
    obtain ⟨⟨bodyStart, body⟩, hfound, rfl⟩ := Option.map_eq_some_iff.1 hbody
    obtain ⟨⟨returns, hreturns⟩, hlast⟩ := Text.dropReturns_eq_iff.1 (rfl : Text.dropReturns raw = _)
    obtain ⟨hle, hdrop, start, hread, hleft⟩ := body?_eq_some_iff.1 hfound
    refine ⟨⟨Text.dropReturns raw, returns, start, ?_, hlast, hle, hdrop, hread, hleft⟩, rfl⟩
    dsimp only
    rw [hraw, ← hreturns]
  · rintro ⟨⟨line, returns, start, hraw, hlast, hle, hdrop, hread, hleft⟩, rfl⟩
    refine ⟨_, hraw, ?_⟩
    rw [Text.dropReturns_eq_iff.2 ⟨⟨returns, rfl⟩, hlast⟩]
    exact Option.map_eq_some_iff.2
      ⟨(d.bodyStart, d.body), body?_eq_some_iff.2 ⟨hle, hdrop, start, hread, hleft⟩, rfl⟩

theorem directives_enumerate (content : Text) :
    Enumerates LineDirective.row (LineDirective.LiesIn content) (directives content) := by
  refine Enumerates.of_reader (fun row d => directiveOn?_eq_some_iff) ?_
  rintro d ⟨line, returns, start, hraw, -⟩
  rw [Text.lines, Text.splitOn_eq]
  exact (List.getElem?_eq_some_iff.1 hraw).1

theorem suppressionsOn_eq {content : Text} {row : Nat} {raw : Text}
    (h : (Text.lines content)[row]? = some raw) :
    suppressionsOn (row + 1) raw
      = (directiveOn? content row).toList.flatMap LineDirective.suppressions := by
  unfold suppressionsOn directiveOn?
  rw [h, Option.bind_some]
  cases body? (Text.dropReturns raw) with
  | none => rfl
  | some found => simp [LineDirective.suppressions, RuleList.suppressionsAt]

theorem suppressions_eq (content : Text) :
    suppressions content = (directives content).flatMap LineDirective.suppressions := by
  have hscan := @scan_eq_flatMap_filterMap _ _ _ (Text.lines content)
    (fun row rows => suppressionsFrom (row + 1) rows) (directiveOn? content)
    LineDirective.suppressions (fun _ => rfl)
  refine hscan fun row raw rows hrows => ?_
  have hraw : (Text.lines content)[row]? = some raw := by
    rw [← Nat.add_zero row, ← List.getElem?_drop, hrows]
    rfl
  rw [suppressionsFrom, suppressionsOn_eq hraw]

end LineComment

end SuppressionAudit

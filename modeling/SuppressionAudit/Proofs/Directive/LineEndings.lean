import SuppressionAudit.Directive.Extraction
import SuppressionAudit.Proofs.Directive.Extraction
import SuppressionAudit.Proofs.Directive.RenderedLists
import SuppressionAudit.Proofs.Directive.RuleLists
import SuppressionAudit.Proofs.Text.Returns

/-!
# Line endings

A carriage return before every newline changes nothing that is extracted from a text, except that each newline
inside a name or a reason has a carriage return in front of it as well. Markers, bodies and rule lists tell a
carriage return from a newline nowhere but at the end of a line: there a line comment drops it, and the body of
a directive that is never closed has it behind its last rule or its reason, where it is trimmed away.
-/

namespace SuppressionAudit

/-! ### Rule lists -/

/-- A rule of a body as it stands in the body with carriage returns. -/
def RuleMention.withReturns (body : Text) (mention : RuleMention) : RuleMention :=
  ⟨Text.withReturns mention.name, (Text.withReturns (body.take mention.offset)).length⟩

namespace RuleList

open Text (withReturns withReturns_append)

theorem mentionsFrom_withReturns {whole before : Text} {entries : List Text} (hne : entries ≠ [])
    (hwhole : before ++ Text.joinWith [','] entries = whole) :
    mentionsFrom (withReturns before).length (entries.map withReturns)
      = (mentionsFrom before.length entries).map (RuleMention.withReturns whole) := by
  induction entries generalizing before with
  | nil => exact absurd rfl hne
  | cons entry entries ih =>
    have hrest : mentionsFrom ((withReturns before).length + (withReturns entry).length + 1) (entries.map withReturns)
        = (mentionsFrom (before.length + entry.length + 1) entries).map (RuleMention.withReturns whole) := by
      cases entries with
      | nil => rfl
      | cons next entries =>
        have hmore : before ++ entry ++ [','] ++ Text.joinWith [','] (next :: entries) = whole := by
          rw [← hwhole, Text.joinWith]
          simp only [List.append_assoc]
        have hstep := ih (List.cons_ne_nil _ _) hmore
        have hcomma : withReturns [','] = [','] := rfl
        simpa only [withReturns_append, hcomma, List.length_append, List.length_singleton] using hstep
    rw [List.map_cons, mentionsFrom, mentionsFrom, Text.trim_withReturns, hrest]
    cases hname : Text.trim entry with
    | nil => rfl
    | cons c name =>
      have hempty : (withReturns (c :: name)).isEmpty = false := by
        rw [List.isEmpty_eq_false_iff, ne_eq, Text.withReturns_eq_nil_iff]
        exact List.cons_ne_nil c name
      -- in front of a name stand the entries before its own and the blanks of its own
      have hfront : whole.take (before.length + Text.leadingBlanks entry) = before ++ entry.takeWhile isBlank := by
        obtain ⟨tail, htail⟩ : entry.takeWhile isBlank <+: Text.joinWith [','] (entry :: entries) := by
          refine (List.takeWhile_prefix isBlank).trans ?_
          cases entries with
          | nil => exact List.prefix_refl entry
          | cons next entries =>
            rw [Text.joinWith, List.append_assoc]
            exact List.prefix_append _ _
        rw [← hwhole, ← htail, ← List.append_assoc, Text.leadingBlanks, ← List.length_append]
        exact List.take_left
      have hblanks : Text.leadingBlanks (withReturns entry) = (withReturns (entry.takeWhile isBlank)).length := by
        rw [Text.leadingBlanks, Text.takeWhile_withReturns rfl]
      simp only [hempty, List.isEmpty_cons, Bool.false_eq_true, if_false, List.map_cons, RuleMention.withReturns,
        hfront, hblanks, withReturns_append, List.length_append]

theorem mentions_withReturns (s : Text) :
    mentions (withReturns s) = (mentions s).map (RuleMention.withReturns s) := by
  have hwhole : [] ++ Text.joinWith [','] (Text.splitOn ',' s) = s := Text.joinWith_splitOn ',' s
  rw [mentions, mentions, Text.splitOn_withReturns (by decide) (by decide)]
  exact mentionsFrom_withReturns (Text.splitOn_ne_nil ',' s) hwhole

theorem reason?_withReturns (s : Text) : reason? (withReturns s) = (reason? s).map withReturns := by
  unfold reason?
  rw [Text.trim_withReturns]
  cases Text.trim s with
  | nil => rfl
  | cons c rest =>
    have hempty : (withReturns (c :: rest)).isEmpty = false := by
      rw [List.isEmpty_eq_false_iff, ne_eq, Text.withReturns_eq_nil_iff]
      exact List.cons_ne_nil c rest
    simp only [hempty, List.isEmpty_cons, Bool.false_eq_true, if_false, Option.map_some]

/-- What a body with carriage returns says is what the body says, written with carriage returns. -/
theorem parse_withReturns (body : Text) :
    parse (withReturns body)
      = ⟨(parse body).rules.map (RuleMention.withReturns body), (parse body).justification.map withReturns⟩ := by
  have hsplit := Text.splitAtFirst?_withReturns (by decide : '\n' ∉ separator) (by decide) (by decide) body
  unfold parse
  cases hfound : Text.splitAtFirst? separator body with
  | none =>
    rw [hfound] at hsplit
    simp only [hsplit, Option.map_none, mentions_withReturns]
  | some found =>
    obtain ⟨rules, reason⟩ := found
    rw [hfound] at hsplit
    simp only [hsplit, Option.map_some, Text.trimEnd_withReturns, mentions_withReturns, reason?_withReturns,
      RuleList.mk.injEq, and_true]
    refine List.map_congr_left fun mention hmention => ?_
    -- the rules are the front of the body
    have hoffset := (writes_of_mem_mentions hmention).offset_le
    obtain ⟨more, hmore⟩ : Text.trimEnd rules <+: body := by
      have hbody := Text.splitAtFirst?_eq_some hfound
      rw [hbody, List.append_assoc]
      exact (Text.trimEnd_isPrefix rules).trans (List.prefix_append _ _)
    have htake : body.take mention.offset = (Text.trimEnd rules).take mention.offset := by
      rw [← hmore, List.take_append_of_le_length hoffset]
    rw [RuleMention.withReturns, RuleMention.withReturns, htake]

/-! ### A blank behind a body -/

section Blank

variable {c : Char} (hc : isBlank c = true)

include hc

theorem mentionsFrom_append_blank (start : Nat) (front : List Text) (last : Text) :
    mentionsFrom start (front ++ [last ++ [c]]) = mentionsFrom start (front ++ [last]) := by
  induction front generalizing start with
  | cons entry front ih => rw [List.cons_append, List.cons_append, mentionsFrom, mentionsFrom, ih]
  | nil =>
    simp only [List.nil_append, mentionsFrom, Text.trim_append_blank hc]
    cases hname : Text.trim last with
    | nil => rfl
    | cons d name =>
      have hne : Text.trim last ≠ [] := by
        rw [hname]
        exact List.cons_ne_nil d name
      rw [Text.leadingBlanks_append_of_trim_ne_nil hne]

theorem mentions_append_blank (s : Text) : mentions (s ++ [c]) = mentions s := by
  have hcomma : c ≠ ',' := by
    rintro rfl
    exact absurd hc (by decide)
  obtain ⟨front, last, hpieces⟩ : ∃ front last, Text.splitOn ',' s = front ++ [last] :=
    (List.eq_nil_or_concat' _).resolve_left (Text.splitOn_ne_nil ',' s)
  have hjoin : Text.joinWith [','] (front ++ [last ++ [c]]) = s ++ [c] := by
    rw [Text.joinWith_append_last, ← hpieces, Text.joinWith_splitOn]
  have hfree : ∀ piece ∈ front ++ [last ++ [c]], ',' ∉ piece := by
    intro piece hpiece
    have hold : ∀ old ∈ front ++ [last], ',' ∉ old := by
      rw [← hpieces]
      exact fun old hmem => Text.notMem_of_mem_splitOn hmem
    rcases List.mem_append.1 hpiece with hpiece | hpiece
    · exact hold piece (List.mem_append_left _ hpiece)
    · have hlast := hold last (List.mem_append_right _ List.mem_cons_self)
      rw [List.mem_singleton.1 hpiece, List.mem_append, List.mem_singleton, not_or]
      exact ⟨hlast, hcomma.symm⟩
  have hsplit := Text.splitOn_joinWith (by simp) hfree
  rw [hjoin] at hsplit
  rw [mentions, mentions, hsplit, hpieces, mentionsFrom_append_blank hc]

theorem parse_append_blank (body : Text) : parse (body ++ [c]) = parse body := by
  have hdash : '-' ≠ c := by
    rintro rfl
    exact absurd hc (by decide)
  have hne : separator ≠ [] := by decide
  unfold parse
  cases hfound : Text.splitAtFirst? separator body with
  | some found =>
    rw [Text.splitAtFirst?_append hne hfound]
    simp only [reason?, Text.trim_append_blank hc]
  | none =>
    have hnone : Text.splitAtFirst? separator (body ++ [c]) = none := by
      rw [Text.splitAtFirst?_eq_none_iff hne] at hfound ⊢
      intro hdashes
      rcases Text.doubled_of_append_cons hdash hdashes with hbody | hend
      · exact hfound hbody
      · exact absurd hend.length_le (by decide)
    simp only [hnone, mentions_append_blank hc]

end Blank

end RuleList

/-! ### Markers -/

namespace Marker

open Text (withReturns)

theorem afterKeyword?_withReturns {opening : Text} (hnewline : '\n' ∉ opening) (hreturn : '\r' ∉ opening) (s : Text) :
    afterKeyword? opening (withReturns s) = (afterKeyword? opening s).map withReturns := by
  unfold afterKeyword?
  rw [Text.dropLiteral?_withReturns hnewline hreturn]
  cases Text.dropLiteral? opening s with
  | none => rfl
  | some rest =>
    simp only [Option.map_some, Text.trimStart_withReturns]
    exact Text.dropLiteral?_withReturns (by decide) (by decide) _

theorem afterQualifier?_withReturns (s : Text) :
    afterQualifier? (withReturns s) = (afterQualifier? s).map withReturns := by
  unfold afterQualifier?
  rw [Text.dropLiteral?_withReturns (by decide) (by decide), Text.dropLiteral?_withReturns (by decide) (by decide)]
  cases Text.dropLiteral? nextLine s <;> rfl

theorem afterRun?_withReturns (s : Text) : afterRun? isBlank (withReturns s) = (afterRun? isBlank s).map withReturns := by
  cases s with
  | nil => rfl
  | cons c s =>
    have hrun : (withReturns s).dropWhile isBlank = withReturns (s.dropWhile isBlank) :=
      Text.dropWhile_withReturns rfl s
    by_cases hc : c = '\n'
    · subst hc
      have hreturn : isBlank '\r' = true := rfl
      rw [Text.withReturns_newline]
      simp only [afterRun?, hreturn, Text.isBlank_newline, if_true, List.dropWhile_cons, hrun, Option.map_some]
    · rw [Text.withReturns_cons hc]
      cases hblank : isBlank c with
      | false => simp [afterRun?, hblank]
      | true => simp only [afterRun?, hblank, if_true, hrun, Option.map_some]

theorem block?_withReturns (s : Text) : block? (withReturns s) = (block? s).map withReturns := by
  unfold block?
  rw [afterKeyword?_withReturns (by decide) (by decide)]
  cases afterKeyword? blockOpening s with
  | none => rfl
  | some rest => exact afterRun?_withReturns rest

theorem qualified?_withReturns (s : Text) : qualified? (withReturns s) = (qualified? s).map withReturns := by
  unfold qualified?
  rw [afterKeyword?_withReturns (by decide) (by decide)]
  cases afterKeyword? blockOpening s with
  | none => rfl
  | some rest =>
    simp only [Option.map_some, afterQualifier?_withReturns]
    cases afterQualifier? rest with
    | none => rfl
    | some rest => exact afterRun?_withReturns rest

end Marker

/-! ### Suppressions with carriage returns -/

/-- The suppression with its name and its reason written with carriage returns, where it was. -/
def Suppression.withReturns (s : Suppression) : Suppression :=
  { s with rule := Text.withReturns s.rule, justification := s.justification.map Text.withReturns }

theorem Suppression.le_withReturns (s t : Suppression) : s.withReturns.le t.withReturns = s.le t := rfl

theorem Position.after_withReturns (p : Position) (s : Text) : p.after (Text.withReturns s) = p.after s := by
  induction s generalizing p with
  | nil => rfl
  | cons c s ih =>
    by_cases hc : c = '\n'
    · -- the newline ends the line wherever on it it stands
      subst hc
      have hstep : (p.next '\r').next '\n' = p.next '\n' := rfl
      rw [Text.withReturns_newline, after_cons, after_cons, hstep, ih, after_cons]
    · rw [Text.withReturns_cons hc, after_cons, after_cons, ih]

theorem RuleList.suppressionsAt_withReturns {body : Text} (kind : SuppressionKind) {place place' : RuleMention → Position}
    (hplace : ∀ mention ∈ (parse body).rules, place' (mention.withReturns body) = place mention) :
    (parse (Text.withReturns body)).suppressionsAt kind place'
      = ((parse body).suppressionsAt kind place).map Suppression.withReturns := by
  rw [parse_withReturns, suppressionsAt, suppressionsAt, List.map_map, List.map_map]
  refine List.map_congr_left fun mention hmention => ?_
  simp only [Function.comp_apply, hplace mention hmention, Suppression.withReturns]
  rfl

/-! ### Block directives -/

namespace Block

open Text (withReturns)

theorem comment?_withReturns (s : Text) :
    comment? (withReturns s) = (comment? s).map fun found => (withReturns found.1, withReturns found.2) := by
  unfold comment?
  rw [Marker.block?_withReturns]
  cases Marker.block? s with
  | none => rfl
  | some rest =>
    simp only [Option.map_some]
    rw [Text.takeWhile_withReturns rfl, Text.dropWhile_withReturns rfl,
      Text.dropLiteral?_withReturns (by decide) (by decide)]
    cases Text.dropLiteral? Marker.blockClosing (rest.dropWhile fun c => c != '*') <;> rfl

/-- Characters inside a comment are passed over. -/
theorem bodiesAfter_eq_drop (inside : Nat) (s : Text) : bodiesAfter inside s = bodiesAfter 0 (s.drop inside) := by
  induction s generalizing inside with
  | nil => cases inside <;> rfl
  | cons c s ih =>
    cases inside with
    | zero => rfl
    | succ inside => exact ih inside

theorem suffix_of_comment? {c : Char} {s body rest : Text} (h : comment? (c :: s) = some (body, rest)) : rest <:+ s := by
  obtain ⟨hbody, hread⟩ := comment?_eq_some_iff.1 h
  obtain ⟨middle, hshape, -⟩ := shape_of_readsBlock hbody hread
  have htail : s = '*' :: middle ++ ['*', '/'] ++ rest := by
    rw [List.append_assoc]
    exact (List.cons.inj hshape).2
  rw [htail]
  exact List.suffix_append _ _

theorem comment?_newline (s : Text) : comment? ('\n' :: s) = none := rfl

theorem comment?_return (s : Text) : comment? ('\r' :: s) = none := rfl

theorem bodiesAfter_withReturns (inside : Nat) (s : Text) :
    bodiesAfter 0 (withReturns (s.drop inside)) = (bodiesAfter inside s).map withReturns := by
  induction s generalizing inside with
  | nil => cases inside <;> rfl
  | cons c s ih =>
    cases inside with
    | succ inside => exact ih inside
    | zero =>
      have hrest := ih 0
      rw [List.drop_zero] at hrest ⊢
      have hcomment := comment?_withReturns (c :: s)
      by_cases hc : c = '\n'
      · subst hc
        simp only [Text.withReturns_newline, bodiesAfter, comment?_newline, comment?_return, hrest]
      · rw [Text.withReturns_cons hc] at hcomment ⊢
        cases hfound : comment? (c :: s) with
        | none =>
          rw [hfound] at hcomment
          simp only [bodiesAfter, hcomment, hfound, Option.map_none, hrest]
        | some found =>
          obtain ⟨body, rest⟩ := found
          rw [hfound] at hcomment
          -- the search goes on behind the comment, in the same rest of the text
          obtain ⟨front, rfl⟩ := suffix_of_comment? hfound
          have hlater := ih front.length
          rw [List.drop_left] at hlater
          rw [Option.map_some, Text.withReturns_append] at hcomment
          rw [Text.withReturns_append]
          simp only [bodiesAfter, hcomment, hfound, List.length_append, Nat.add_sub_cancel, List.map_cons, ← hlater]
          rw [bodiesAfter_eq_drop, List.drop_left]

theorem suppressions_withReturns (content : Text) :
    suppressions (withReturns content) = (suppressions content).map Suppression.withReturns := by
  have hbodies := bodiesAfter_withReturns 0 content
  rw [List.drop_zero] at hbodies
  unfold suppressions bodies
  rw [hbodies, List.flatMap_map, List.map_flatMap]
  refine List.flatMap_congr fun body _ => ?_
  exact RuleList.suppressionsAt_withReturns .block fun _ _ => rfl

end Block

/-! ### Qualified directives -/

namespace Qualified

open Text (withReturns)

/-- The body of a directive that is never closed has a carriage return behind it. -/
theorem bodyOf_withReturns (s : Text) :
    ∃ tail, bodyOf (withReturns s) = withReturns (bodyOf s) ++ tail ∧ (tail = [] ∨ tail = ['\r']) := by
  have hsplit := Text.splitAtFirst?_withReturns (by decide : '\n' ∉ Marker.blockClosing) (by decide) (by decide) s
  unfold bodyOf
  cases hfound : Text.splitAtFirst? Marker.blockClosing s with
  | some found =>
    rw [hfound] at hsplit
    exact ⟨[], by simp only [hsplit, Option.map_some, List.append_nil], .inl rfl⟩
  | none =>
    rw [hfound] at hsplit
    simp only [hsplit, Option.map_none]
    have hrun := Run.of_takeWhile (fun c => c != '\n') s
    have hline : '\n' ∉ s.takeWhile fun c => c != '\n' := fun hmem => by simpa using hrun.inside '\n' hmem
    have hs := List.takeWhile_append_dropWhile (p := fun c => c != '\n') (l := s)
    generalize s.takeWhile (fun c => c != '\n') = line at hrun hline hs
    generalize s.dropWhile (fun c => c != '\n') = rest at hrun hs
    rw [← hs, Text.withReturns_append, Text.withReturns_of_notMem hline, List.takeWhile_append_of_pos hrun.inside]
    cases rest with
    | nil => exact ⟨[], rfl, .inl rfl⟩
    | cons c rest =>
      have hc := hrun.stops c rfl
      obtain rfl : c = '\n' := by simpa using hc
      exact ⟨['\r'], by simp [Text.withReturns_newline], .inr rfl⟩

theorem parse_bodyOf_withReturns (s : Text) :
    RuleList.parse (bodyOf (withReturns s)) = RuleList.parse (withReturns (bodyOf s)) := by
  obtain ⟨tail, hbody, rfl | rfl⟩ := bodyOf_withReturns s
  · rw [hbody, List.append_nil]
  · rw [hbody, RuleList.parse_append_blank rfl]

theorem suppressionsHere_withReturns (p : Position) (s : Text) :
    suppressionsHere p (withReturns s) = (suppressionsHere p s).map Suppression.withReturns := by
  unfold suppressionsHere
  rw [Marker.qualified?_withReturns]
  cases hfound : Marker.qualified? s with
  | none => rfl
  | some rest =>
    obtain ⟨front, rfl⟩ := (Marker.qualified?_eq_some_iff.1 hfound).suffix
    simp only [Option.map_some, parse_bodyOf_withReturns, Text.withReturns_append, List.length_append,
      Nat.add_sub_cancel, List.take_left, Position.after_withReturns]
    refine RuleList.suppressionsAt_withReturns .line fun mention hmention => ?_
    -- what stands before a name in the body reads to the same place
    obtain ⟨tail, hbody, -⟩ := bodyOf_withReturns rest
    have htake : (bodyOf (withReturns rest)).take (mention.withReturns (bodyOf rest)).offset
        = withReturns ((bodyOf rest).take mention.offset) := by
      have hcut := congrArg withReturns (List.take_append_drop mention.offset (bodyOf rest))
      rw [Text.withReturns_append] at hcut
      rw [hbody, ← hcut, List.append_assoc, RuleMention.withReturns, List.take_left]
    rw [htake, Position.after_withReturns]

theorem suppressionsFrom_withReturns (p : Position) (s : Text) :
    suppressionsFrom p (withReturns s) = (suppressionsFrom p s).map Suppression.withReturns := by
  induction s generalizing p with
  | nil => rfl
  | cons c s ih =>
    by_cases hc : c = '\n'
    · -- no directive opens with either of the two characters
      subst hc
      have hnewline : ∀ (q : Position) (t : Text), suppressionsHere q ('\n' :: t) = [] := fun _ _ => rfl
      have hreturn : ∀ (q : Position) (t : Text), suppressionsHere q ('\r' :: t) = [] := fun _ _ => rfl
      have hplace : (p.next '\r').next '\n' = p.next '\n' := rfl
      rw [Text.withReturns_newline, suppressionsFrom, suppressionsFrom, suppressionsFrom, hnewline, hnewline, hreturn,
        hplace, ih]
      rfl
    · have hhere := suppressionsHere_withReturns p (c :: s)
      rw [Text.withReturns_cons hc] at hhere ⊢
      rw [suppressionsFrom, suppressionsFrom, hhere, ih, List.map_append]

end Qualified

/-! ### Line comments -/

namespace LineComment

open Text (withReturns)

theorem suppressionsFrom_congr {rows rows' : List Text}
    (h : rows.map Text.dropReturns = rows'.map Text.dropReturns) (line : Nat) :
    suppressionsFrom line rows = suppressionsFrom line rows' := by
  induction rows generalizing rows' line with
  | nil =>
    rw [List.map_nil, eq_comm, List.map_eq_nil_iff] at h
    rw [h]
  | cons row rows ih =>
    cases rows' with
    | nil => simp at h
    | cons row' rows' =>
      rw [List.map_cons, List.map_cons] at h
      obtain ⟨hrow, hrows⟩ := List.cons.inj h
      rw [suppressionsFrom, suppressionsFrom, suppressionsOn, suppressionsOn, hrow, ih hrows]

/-- A line holds no newline, and what it says none either. -/
theorem suppressionsOn_eq_withReturns {row : Text} (hrow : '\n' ∉ row) (line : Nat) :
    suppressionsOn line row = (suppressionsOn line row).map Suppression.withReturns := by
  unfold suppressionsOn
  cases hfound : body? (Text.dropReturns row) with
  | none => rfl
  | some found =>
    obtain ⟨start, body⟩ := found
    have hbody : '\n' ∉ body := by
      obtain ⟨-, hdrop, -⟩ := body?_eq_some_iff.1 hfound
      obtain ⟨⟨n, hn⟩, -⟩ := Text.dropReturns_eq_iff.1 (rfl : Text.dropReturns row = _)
      intro hmem
      rw [hdrop] at hmem
      rw [hn] at hrow
      exact hrow (List.mem_append_left _ (List.mem_of_mem_drop hmem))
    have hplace : ∀ mention ∈ (RuleList.parse body).rules, (mention.withReturns body).offset = mention.offset := by
      intro mention hmention
      have hoffset := (RuleList.writes_of_mem_parse hmention).offset_le
      rw [RuleMention.withReturns, Text.withReturns_of_notMem fun hmem => hbody (List.mem_of_mem_take hmem)]
      exact List.length_take_of_le hoffset
    let place := fun mention : RuleMention => (⟨line, start + mention.offset + 1⟩ : Position)
    have hlist : (RuleList.parse (Text.withReturns body)).suppressionsAt .line place
        = ((RuleList.parse body).suppressionsAt .line place).map Suppression.withReturns :=
      RuleList.suppressionsAt_withReturns .line fun mention hmention => by
        simp only [place, hplace mention hmention]
    rwa [Text.withReturns_of_notMem hbody] at hlist

theorem suppressions_withReturns (content : Text) :
    suppressions (withReturns content) = (suppressions content).map Suppression.withReturns := by
  have hlines := suppressionsFrom_congr (Text.dropReturns_lines_withReturns content) 1
  have hfree : ∀ row ∈ Text.lines content, '\n' ∉ row := fun row hrow => Text.notMem_of_mem_splitOn hrow
  rw [suppressions, hlines, suppressions]
  generalize 1 = line
  generalize Text.lines content = rows at hfree
  induction rows generalizing line with
  | nil => rfl
  | cons row rows ih =>
    have hrow := suppressionsOn_eq_withReturns (hfree row List.mem_cons_self) line
    have hrows := ih (line + 1) fun row hrow => hfree row (List.mem_cons_of_mem _ hrow)
    rw [suppressionsFrom, List.map_append, ← hrow, ← hrows]

end LineComment

/-- Line endings do not matter: with a carriage return before each newline of a text the same suppressions are
found in the same order at the same places, and each newline in a name or a reason has one before it too. -/
theorem extractSuppressions_withReturns (content : Text) :
    extractSuppressions (Text.withReturns content) = (extractSuppressions content).map Suppression.withReturns := by
  rw [extractSuppressions, extractSuppressions, lineFormSuppressions, lineFormSuppressions,
    Block.suppressions_withReturns, Qualified.suppressions, Qualified.suppressionsFrom_withReturns,
    LineComment.suppressions_withReturns, ← List.map_append, stableSort_map Suppression.le_withReturns,
    List.map_append]
  rfl

/-- A name over two lines, and a reason that the end of the comment cuts off. -/
example : extractSuppressions (Text.withReturns "/* eslint-disable-line a\nb -- c */\n".toList)
    = [⟨"a\r\nb".toList, ⟨1, 24⟩, some ['c'], .line⟩] := by
  decide +kernel

end SuppressionAudit

import SuppressionAudit.Proofs.Directive.Extraction

/-!
# One body in the two comment forms

A body without a slash is put into a comment with a qualifier and into one without. Both comments open
at the start of the text only, so each scan has one place to look at. The qualified form reads every
such body. The other form reads a body without an asterisk in the same way and loses any other: its
comment is not a directive at all, and no other scan finds it.
-/

namespace SuppressionAudit

/-- A body in a comment with the keyword and a qualifier. -/
def commentWith (qualifier body : Text) : Text :=
  ['/', '*'] ++ [' '] ++ "eslint-disable".toList ++ qualifier ++ [' '] ++ body ++ ['*', '/']

def unqualifiedComment (body : Text) : Text := commentWith [] body

def qualifiedComment (body : Text) : Text := commentWith "-line".toList body

example : unqualifiedComment ['a'] = "/* eslint-disable a*/".toList := rfl

example : qualifiedComment ['a'] = "/* eslint-disable-line a*/".toList := rfl

/-- What a report says of suppressions apart from their form and place. -/
def reported (found : List Suppression) : List (Text × Option Text) :=
  found.map fun s => (s.rule, s.justification)

/-- What a rule list says: its names, each with the reason of the list. -/
def listed (body : Text) : List (Text × Option Text) :=
  (RuleList.parse body).rules.map fun mention => (mention.name, (RuleList.parse body).justification)

/-! ### Slashes at the ends -/

def SlashesAtEnds (s : Text) : Prop := ∀ i, s[i]? = some '/' → i = 0 ∨ i + 1 = s.length

theorem slashesAtEnds_wrap {middle : Text} (h : '/' ∉ middle) :
    SlashesAtEnds ('/' :: (middle ++ ['/'])) := by
  intro i hi
  cases i with
  | zero => exact .inl rfl
  | succ i =>
    rw [List.getElem?_cons_succ] at hi
    have hlt := (List.getElem?_eq_some_iff.1 hi).1
    rcases Nat.lt_or_ge i middle.length with hin | hout
    · rw [List.getElem?_append_left hin] at hi
      exact absurd (List.mem_of_getElem? hi) h
    · simp only [List.length_append, List.length_cons, List.length_nil] at hlt ⊢
      omega

theorem getElem?_of_prefix_drop {x y : Char} {s : Text} {i : Nat} (h : [x, y] <+: s.drop i) :
    s[i]? = some x ∧ s[i + 1]? = some y := by
  obtain ⟨rest, hrest⟩ := h
  have hx := congrArg (fun t : Text => t[0]?) hrest
  have hy := congrArg (fun t : Text => t[1]?) hrest
  simp only [List.getElem?_drop] at hx hy
  exact ⟨hx.symm, hy.symm⟩

namespace SlashesAtEnds

variable {s : Text} {i : Nat}

/-- A comment opens at the start of such a text or nowhere. -/
theorem opens_at_start (h : SlashesAtEnds s) {c : Char} (hopen : ['/', c] <+: s.drop i) : i = 0 := by
  obtain ⟨hslash, hnext⟩ := getElem?_of_prefix_drop hopen
  have hlt := (List.getElem?_eq_some_iff.1 hnext).1
  rcases h i hslash with h0 | hend
  · exact h0
  · omega

theorem no_line_comment (h : SlashesAtEnds s) (hlen : 2 < s.length) : ¬ ['/', '/'] <:+: s := by
  rintro ⟨front, rest, hs⟩
  have hopen : ['/', '/'] <+: s.drop front.length := by
    rw [← hs, List.append_assoc, List.drop_left]
    exact List.prefix_append _ _
  have h0 := h.opens_at_start hopen
  have hnext := (getElem?_of_prefix_drop hopen).2
  rw [h0] at hnext
  rcases h 1 hnext with h1 | h1
  · omega
  · omega

end SlashesAtEnds

/-! ### The place of the body -/

theorem slashesAtEnds_commentWith {qualifier body : Text} (hq : '/' ∉ qualifier) (h : '/' ∉ body) :
    SlashesAtEnds (commentWith qualifier body) := by
  have hmiddle : '/' ∉ ['*', ' '] ++ "eslint-disable".toList ++ qualifier ++ [' '] ++ body ++ ['*'] := by
    simp only [List.mem_append, not_or]
    exact ⟨⟨⟨⟨⟨by decide, by decide⟩, hq⟩, by decide⟩, h⟩, by decide⟩
  have hwrap := slashesAtEnds_wrap hmiddle
  rwa [List.append_assoc] at hwrap

theorem run_blanks (body : Text) :
    Run isBlank (' ' :: body.takeWhile isBlank) (Text.trimStart body ++ ['*', '/']) := by
  have hrun := Run.of_takeWhile isBlank body
  constructor
  · intro c hc
    rcases List.mem_cons.1 hc with rfl | hc
    · decide
    · exact hrun.inside c hc
  · intro c hc
    cases htrim : Text.trimStart body with
    | nil =>
      rw [htrim] at hc
      obtain rfl : '*' = c := Option.some.inj hc
      decide
    | cons d rest =>
      rw [htrim] at hc
      have hstops := hrun.stops
      rw [show body.dropWhile isBlank = d :: rest from htrim] at hstops
      exact hstops c hc

theorem commentWith_eq (qualifier body : Text) :
    commentWith qualifier body = ['/', '*'] ++ [' '] ++ "eslint-disable".toList ++ qualifier
      ++ (' ' :: body.takeWhile isBlank) ++ (Text.trimStart body ++ ['*', '/']) := by
  have hbody := Text.trimStart_append body
  calc commentWith qualifier body
      = ['/', '*'] ++ [' '] ++ "eslint-disable".toList ++ qualifier ++ [' ']
          ++ (body.takeWhile isBlank ++ Text.trimStart body) ++ ['*', '/'] := by
        rw [hbody, commentWith]
    _ = ['/', '*'] ++ [' '] ++ "eslint-disable".toList ++ qualifier
          ++ (' ' :: body.takeWhile isBlank) ++ (Text.trimStart body ++ ['*', '/']) := by
        simp only [List.append_assoc, List.cons_append, List.nil_append]

theorem isBlank_of_mem_space : ∀ c ∈ [' '], isBlank c = true := by
  intro c hc
  rw [List.mem_singleton.1 hc]
  exact Text.isBlank_space

theorem readsBlock_unqualifiedComment (body : Text) :
    ReadsBlock (unqualifiedComment body) (Text.trimStart body ++ ['*', '/']) :=
  ⟨[' '], [], ' ' :: body.takeWhile isBlank, commentWith_eq [] body, isBlank_of_mem_space,
    List.mem_singleton.2 rfl, List.cons_ne_nil _ _, run_blanks body⟩

theorem readsQualified_qualifiedComment (body : Text) :
    ReadsQualified (qualifiedComment body) (Text.trimStart body ++ ['*', '/']) :=
  ⟨[' '], "-line".toList, ' ' :: body.takeWhile isBlank, commentWith_eq _ body, isBlank_of_mem_space,
    List.mem_cons_self, List.cons_ne_nil _ _, run_blanks body⟩

theorem mem_trimStart_of_not_isBlank {c : Char} (hc : isBlank c = false) (body : Text) :
    c ∈ Text.trimStart body ↔ c ∈ body := by
  have hfront : c ∉ body.takeWhile isBlank := by
    intro hmem
    rw [(Run.of_takeWhile isBlank body).inside c hmem] at hc
    exact absurd hc (by decide)
  constructor
  · intro hmem
    rw [← Text.trimStart_append body]
    exact List.mem_append_right _ hmem
  · intro hmem
    rw [← Text.trimStart_append body] at hmem
    exact (List.mem_append.1 hmem).resolve_left hfront

theorem closing_place {body : Text} (h : '/' ∉ body) {j : Nat}
    (hclose : ['*', '/'] <+: (body ++ ['*', '/']).drop j) : j = body.length := by
  have hslash := (getElem?_of_prefix_drop hclose).2
  have hlt := (List.getElem?_eq_some_iff.1 hslash).1
  simp only [List.length_append, List.length_cons, List.length_nil] at hlt
  rcases Nat.lt_or_ge (j + 1) body.length with hin | hout
  · rw [List.getElem?_append_left hin] at hslash
    exact absurd (List.mem_of_getElem? hslash) h
  · have hcases : j + 1 = body.length ∨ j = body.length := by omega
    rcases hcases with hj | hj
    · rw [hj, List.getElem?_append_right (Nat.le_refl _), Nat.sub_self] at hslash
      exact absurd hslash (by decide)
    · exact hj

/-- A body that ends where a body without a slash ends is that body. -/
theorem eq_of_closed {body found rest : Text} (h : '/' ∉ body)
    (heq : found ++ ['*', '/'] ++ rest = body ++ ['*', '/']) : found = body ∧ rest = [] := by
  have hclose : ['*', '/'] <+: (body ++ ['*', '/']).drop found.length := by
    rw [← heq, List.append_assoc, List.drop_left]
    exact List.prefix_append _ _
  have hlen := closing_place h hclose
  rw [List.append_assoc] at heq
  obtain ⟨hfound, hrest⟩ := List.append_inj heq hlen
  exact ⟨hfound, List.append_cancel_left (hrest.trans (List.append_nil _).symm)⟩

/-! ### The qualified form -/

theorem slash_notMem_trimStart {body : Text} (h : '/' ∉ body) : '/' ∉ Text.trimStart body :=
  fun hmem => h ((mem_trimStart_of_not_isBlank (by decide) body).1 hmem)

theorem Qualified.bodyOf_closed {body : Text} (h : '/' ∉ body) : bodyOf (body ++ ['*', '/']) = body := by
  refine bodyOf_eq_iff.2 (.inl ⟨[], by simp, ?_⟩)
  intro j hj hclose
  have hend := closing_place h hclose
  omega

theorem Qualified.directiveAt?_qualifiedComment {body : Text} (h : '/' ∉ body) :
    directiveAt? (qualifiedComment body) 0
      = some ⟨0, (qualifiedComment body).length - (Text.trimStart body ++ ['*', '/']).length,
          Text.trimStart body⟩ := by
  have hread := readsQualified_qualifiedComment body
  rw [directiveAt?, List.drop_zero, Marker.qualified?_eq_some_iff.2 hread, Option.map_some,
    bodyOf_closed (slash_notMem_trimStart h)]

theorem Qualified.directives_qualifiedComment {body : Text} (h : '/' ∉ body) :
    ∃ bodyStart, directives (qualifiedComment body) = [⟨0, bodyStart, Text.trimStart body⟩] := by
  have hslashes : SlashesAtEnds (qualifiedComment body) := slashesAtEnds_commentWith (by decide) h
  have hhere := directiveAt?_qualifiedComment h
  generalize (qualifiedComment body).length - _ = bodyStart at hhere
  have hfound := directives_enumerate (qualifiedComment body)
  refine ⟨bodyStart, hfound.unique ⟨List.pairwise_singleton _ _, ?_⟩⟩
  intro d
  rw [List.mem_singleton]
  constructor
  · rintro rfl
    exact (directiveAt?_eq_some_iff.1 hhere).1
  · intro hd
    have hstart : d.start = 0 := hslashes.opens_at_start hd.2.1.opens
    have hsame := directiveAt?_eq_some_iff.2 ⟨hd, hstart⟩
    rw [hhere] at hsame
    exact (Option.some.inj hsame).symm

theorem Qualified.reported_qualifiedComment {body : Text} (h : '/' ∉ body) :
    reported (suppressions (qualifiedComment body)) = listed (Text.trimStart body) := by
  obtain ⟨bodyStart, hdirectives⟩ := directives_qualifiedComment h
  rw [suppressions_eq, hdirectives]
  simp [reported, listed, QualifiedDirective.suppressions]

/-! ### The form without a qualifier -/

/-- The one block directive that a comment without a qualifier can hold. -/
theorem BlockComment.liesIn_unqualifiedComment_iff {body : Text} (h : '/' ∉ body) (c : BlockComment) :
    c.LiesIn (unqualifiedComment body) ↔
      '*' ∉ body ∧ c = ⟨0, Text.trimStart body, (unqualifiedComment body).length⟩ := by
  have hslashes : SlashesAtEnds (unqualifiedComment body) := slashesAtEnds_commentWith (by simp) h
  have htrim := slash_notMem_trimStart h
  have hread := readsBlock_unqualifiedComment body
  have hstar : '*' ∈ Text.trimStart body ↔ '*' ∈ body := mem_trimStart_of_not_isBlank (by decide) body
  constructor
  · -- both readings start at the first slash and end at the last one
    rintro ⟨hbody, hstop, hlies⟩
    have hstart : c.start = 0 := hslashes.opens_at_start hlies.opens
    rw [hstart, List.drop_zero] at hlies
    obtain ⟨hsame, hrest⟩ := eq_of_closed htrim (hlies.unique hread)
    rw [hsame, hstar] at hbody
    have hend : c.stop = (unqualifiedComment body).length :=
      Nat.le_antisymm hstop (List.drop_eq_nil_iff.1 hrest)
    refine ⟨hbody, ?_⟩
    rw [← hstart, ← hsame, ← hend]
  · rintro ⟨hbody, rfl⟩
    refine ⟨fun hmem => hbody (hstar.1 hmem), Nat.le_refl _, ?_⟩
    simp only [List.drop_length, List.append_nil]
    exact hread

theorem Block.reported_unqualifiedComment {body : Text} (h : '/' ∉ body) :
    reported (suppressions (unqualifiedComment body))
      = if '*' ∈ body then [] else listed (Text.trimStart body) := by
  have hlies := BlockComment.liesIn_unqualifiedComment_iff h
  have hfound := comments_enumerate (unqualifiedComment body)
  rw [suppressions_eq]
  split
  · next hstar =>
    have hnone : comments (unqualifiedComment body) = [] := by
      refine List.eq_nil_iff_forall_not_mem.2 fun c hc => ?_
      exact ((hlies c).1 ((hfound.mem_iff c).1 hc).1).1 hstar
    rw [hnone]
    rfl
  · next hstar =>
    have hone : comments (unqualifiedComment body)
        = [⟨0, Text.trimStart body, (unqualifiedComment body).length⟩] := by
      refine counted_unique hfound ⟨List.pairwise_singleton _ _, fun c => ?_⟩
      rw [hlies, List.mem_singleton]
      constructor
      · rintro rfl
        refine ⟨⟨hstar, rfl⟩, fun d hd => ?_⟩
        rw [List.mem_singleton.1 hd]
        simp only [unqualifiedComment, commentWith, List.length_append, List.length_cons]
        omega
      · exact fun hc => hc.1.2
    rw [hone]
    simp [reported, listed, BlockComment.suppressions]

theorem lineFormSuppressions_unqualifiedComment {body : Text} (h : '/' ∉ body) :
    lineFormSuppressions (unqualifiedComment body) = [] := by
  have hslashes : SlashesAtEnds (unqualifiedComment body) := slashesAtEnds_commentWith (by simp) h
  have hlen : 2 < (unqualifiedComment body).length := by
    simp only [unqualifiedComment, commentWith, List.length_append, List.length_cons]
    omega
  have hqualified : Qualified.directives (unqualifiedComment body) = [] := by
    refine List.eq_nil_iff_forall_not_mem.2 fun d hd => ?_
    have hlies := ((Qualified.directives_enumerate _).mem_iff d).1 hd
    have hstart : d.start = 0 := hslashes.opens_at_start hlies.2.1.opens
    have hread := hlies.2.1
    rw [hstart, List.drop_zero] at hread
    exact (readsBlock_unqualifiedComment body).not_readsQualified hread
  have hlines : LineComment.directives (unqualifiedComment body) = [] := by
    refine List.eq_nil_iff_forall_not_mem.2 fun d hd => ?_
    obtain ⟨line, returns, start, hraw, -, -, -, hread, -⟩ :=
      ((LineComment.directives_enumerate _).mem_iff d).1 hd
    rw [← Text.splitOn_eq] at hraw
    have hline : line ++ List.replicate returns '\r' <:+: unqualifiedComment body := by
      rw [← Text.joinWith_splitOn '\n' (unqualifiedComment body)]
      exact Text.infix_joinWith (List.mem_of_getElem? hraw)
    refine hslashes.no_line_comment hlen (hread.opens.isInfix.trans ?_)
    exact (List.drop_suffix _ _).isInfix.trans ((List.prefix_append _ _).isInfix.trans hline)
  rw [lineFormSuppressions, Qualified.suppressions_eq, LineComment.suppressions_eq, hqualified, hlines]
  rfl

theorem extractSuppressions_unqualifiedComment {body : Text} (h : '/' ∉ body) :
    extractSuppressions (unqualifiedComment body) = Block.suppressions (unqualifiedComment body) := by
  rw [extractSuppressions, lineFormSuppressions_unqualifiedComment h, List.append_nil]

/-! ### Agreement -/

/-- The two forms report the same of a body exactly when it holds no asterisk or names no rule. A body
with an asterisk that names rules is reported from the qualified form alone: nothing at all is extracted
from the other comment. -/
theorem reported_eq_iff_no_asterisk (body : Text) (h : '/' ∉ body) :
    (reported (Block.suppressions (unqualifiedComment body))
        = reported (Qualified.suppressions (qualifiedComment body)) ↔
      '*' ∉ body ∨ listed (Text.trimStart body) = []) ∧
    reported (Qualified.suppressions (qualifiedComment body)) = listed (Text.trimStart body) ∧
    reported (extractSuppressions (unqualifiedComment body))
      = if '*' ∈ body then [] else listed (Text.trimStart body) := by
  have hqualified := Qualified.reported_qualifiedComment h
  have hblock := Block.reported_unqualifiedComment h
  refine ⟨?_, hqualified, ?_⟩
  · rw [hqualified, hblock]
    by_cases hstar : '*' ∈ body
    · simp only [hstar, if_true, not_true_eq_false, false_or]
      exact eq_comm
    · simp only [hstar, if_false, not_false_eq_true, true_or]
  · rw [extractSuppressions_unqualifiedComment h, hblock]

theorem reported_eq_of_plain_body :
    '/' ∉ "a, b -- why".toList ∧
      reported (Block.suppressions (unqualifiedComment "a, b -- why".toList))
        = reported (Qualified.suppressions (qualifiedComment "a, b -- why".toList)) := by
  have hslash : '/' ∉ "a, b -- why".toList := by decide
  have hstar : '*' ∉ "a, b -- why".toList := by decide
  exact ⟨hslash, (reported_eq_iff_no_asterisk _ hslash).1.2 (.inl hstar)⟩

/-- A reason in asterisks hides the directive from the block scan. -/
theorem not_reported_eq_of_starred_reason :
    ¬ ∀ body, '/' ∉ body → reported (Block.suppressions (unqualifiedComment body))
      = reported (Qualified.suppressions (qualifiedComment body)) := by
  intro hall
  have hagree := hall "no-console -- *why* ".toList (by decide)
  have hblock : reported (Block.suppressions (unqualifiedComment "no-console -- *why* ".toList)) = [] := by
    decide +kernel
  have hqualified : reported (Qualified.suppressions (qualifiedComment "no-console -- *why* ".toList))
      = [("no-console".toList, some "*why*".toList)] := by
    decide +kernel
  rw [hblock, hqualified] at hagree
  exact List.cons_ne_nil _ _ hagree.symm

end SuppressionAudit

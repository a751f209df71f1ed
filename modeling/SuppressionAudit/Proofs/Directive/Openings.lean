import SuppressionAudit.Proofs.Directive.ExactPositions

/-!
# Where directives open

The markers of both line forms read from one offset of a text to another. Behind its opening a marker holds no
slash, so no marker opens within another one, and lists that start at different offsets have their markers in the
same order. A marker holds no comma either.
-/

namespace SuppressionAudit

/-- The marker of a line form reads from one offset of a text to another. -/
def MarksAt (content : Text) (start bodyStart : Nat) : Prop :=
  bodyStart ≤ content.length ∧
    (ReadsQualified (content.drop start) (content.drop bodyStart) ∨
      ReadsLineComment (content.drop start) (content.drop bodyStart))

/-- The line comment that is read from a row is read from the text. -/
theorem RowCut.reads {content before line after : Text} {row start bodyStart : Nat}
    (h : RowCut content row before line after) (hle : bodyStart ≤ line.length)
    (hread : ReadsLineComment (line.drop start) (line.drop bodyStart)) :
    before.length + bodyStart ≤ content.length ∧
      ReadsLineComment (content.drop (before.length + start)) (content.drop (before.length + bodyStart)) := by
  have hstart : start ≤ line.length := by
    have hpos := List.length_pos_iff.2 hread.ne_nil
    rw [List.length_drop] at hpos
    omega
  constructor
  · rw [h.eq, List.length_append, List.length_append]
    omega
  · obtain ⟨blanks, qualifier, gap, hs, hblanks, hqualifier, hne, hrun⟩ := hread
    rw [h.drop_eq hstart, h.drop_eq hle]
    refine ⟨blanks, qualifier, gap, ?_, hblanks, hqualifier, hne, hrun.inside, fun c hc => ?_⟩
    · rw [hs, List.append_assoc]
    · -- behind the line comes no blank that could go on with the run
      cases hbody : line.drop bodyStart with
      | nil =>
        rw [hbody] at hc
        rcases h.ends c hc with rfl | rfl <;> rfl
      | cons d rest =>
        rw [hbody] at hc
        exact hrun.stops c (by rw [hbody]; exact hc)

theorem LineDirective.LiesIn.reads {content : Text} {d : LineDirective} (h : d.LiesIn content) :
    rowStart (List.splitOn '\n' content) d.row + d.bodyStart ≤ content.length ∧
      ∃ start, ReadsLineComment (content.drop start)
        (content.drop (rowStart (List.splitOn '\n' content) d.row + d.bodyStart)) := by
  obtain ⟨before, line, after, start, hcut, hle, hbody, hread⟩ := h.cut
  obtain ⟨hlength, hcomment⟩ := hcut.reads hle (hbody ▸ hread)
  rw [hcut.start] at hlength hcomment
  exact ⟨hlength, _, hcomment⟩

theorem HoldsRuleList.marksAt {content body : Text} {bodyStart : Nat} (h : HoldsRuleList content bodyStart body) :
    ∃ start, MarksAt content start bodyStart := by
  rcases h with ⟨start, hle, hread, -⟩ | ⟨row, column, hlies, rfl⟩
  · exact ⟨start, hle, .inl hread⟩
  · obtain ⟨hle, start, hread⟩ := hlies.reads
    exact ⟨start, hle, .inr hread⟩

/-- Whether a character stands in no marker behind its opening. -/
def isLoud (c : Char) : Bool := c == '/' || c == '*' || c == ','

theorem isLoud_eq_false_of_class {inClass : Char → Bool} {d : Char}
    (h : inClass '/' = false ∧ inClass '*' = false ∧ inClass ',' = false) (hd : inClass d = true) :
    isLoud d = false := by
  obtain ⟨hslash, hstar, hcomma⟩ := h
  by_contra hloud
  simp only [isLoud, Bool.not_eq_false, Bool.or_eq_true, beq_iff_eq] at hloud
  rcases hloud with (rfl | rfl) | rfl
  · exact Bool.noConfusion (hslash.symm.trans hd)
  · exact Bool.noConfusion (hstar.symm.trans hd)
  · exact Bool.noConfusion (hcomma.symm.trans hd)

/-- A marker is its opening and a text without slashes, asterisks and commas. -/
structure OpensAt (content : Text) (start bodyStart : Nat) : Prop where
  long : start + 2 < bodyStart
  slash : content[start]? = some '/'
  second : content[start + 1]? = some '*' ∨ content[start + 1]? = some '/'
  quiet : ∀ j c, start + 2 ≤ j → j < bodyStart → content[j]? = some c → isLoud c = false

theorem ReadsMarker.opensAt {c : Char} {qualifiers : List Text} {separates : Char → Bool} {content : Text}
    {start bodyStart : Nat} (hc : c = '*' ∨ c = '/')
    (hqualifiers : ∀ q ∈ qualifiers, q.any isLoud = false)
    (hseparates : separates '/' = false ∧ separates '*' = false ∧ separates ',' = false)
    (hle : bodyStart ≤ content.length)
    (h : ReadsMarker ['/', c] qualifiers separates (content.drop start) (content.drop bodyStart)) :
    OpensAt content start bodyStart := by
  obtain ⟨blanks, qualifier, gap, hs, hblanks, hqualifier, hne, hrun⟩ := h
  let inner := blanks ++ "eslint-disable".toList ++ qualifier ++ gap
  have hdrop : content.drop start = '/' :: c :: (inner ++ content.drop bodyStart) := by
    simpa [inner] using hs
  have hquiet : ∀ d ∈ inner, isLoud d = false := by
    have hkeyword : "eslint-disable".toList.any isLoud = false := by decide
    intro d hd
    simp only [inner, List.mem_append] at hd
    rcases hd with ((hd | hd) | hd) | hd
    · exact isLoud_eq_false_of_class (by decide) (hblanks d hd)
    · exact Bool.eq_false_iff.2 (List.any_eq_false.1 hkeyword d hd)
    · exact Bool.eq_false_iff.2 (List.any_eq_false.1 (hqualifiers qualifier hqualifier) d hd)
    · exact isLoud_eq_false_of_class hseparates (hrun.inside d hd)
  have hpos : 0 < inner.length := by
    have hgap := List.length_pos_iff.2 hne
    simp only [inner, List.length_append]
    omega
  have hlen := congrArg List.length hdrop
  simp only [List.length_drop, List.length_cons, List.length_append] at hlen
  have hget : ∀ i, content[start + i]? = ('/' :: c :: (inner ++ content.drop bodyStart))[i]? := by
    intro i
    rw [← List.getElem?_drop, hdrop]
  refine ⟨by omega, hget 0, ?_, fun j d hj hlt hd => ?_⟩
  · rw [hget 1]
    exact hc.imp (congrArg some) (congrArg some)
  · obtain ⟨i, rfl⟩ : ∃ i, j = start + (i + 2) := ⟨j - (start + 2), by omega⟩
    rw [hget, List.getElem?_cons_succ, List.getElem?_cons_succ, List.getElem?_append_left (by omega)] at hd
    exact hquiet d (List.mem_of_getElem? hd)

theorem OpensAt.comma_free {content : Text} {start bodyStart : Nat} (h : OpensAt content start bodyStart) {j : Nat}
    (hle : start ≤ j) (hlt : j < bodyStart) : content[j]? ≠ some ',' := by
  intro hcomma
  obtain rfl | rfl | hlater : j = start ∨ j = start + 1 ∨ start + 2 ≤ j := by omega
  · rw [h.slash] at hcomma
    exact absurd (Option.some.inj hcomma) (by decide)
  · rcases h.second with hsecond | hsecond
    · rw [hsecond] at hcomma
      exact absurd (Option.some.inj hcomma) (by decide)
    · rw [hsecond] at hcomma
      exact absurd (Option.some.inj hcomma) (by decide)
  · exact absurd (h.quiet j ',' hlater hlt hcomma) (by decide)

theorem ReadsQualified.not_readsLineComment {s t u : Text} (ht : ReadsQualified s t) : ¬ ReadsLineComment s u := by
  intro hu
  obtain ⟨rest, hrest⟩ := ht.opens
  obtain ⟨more, hmore⟩ := hu.opens
  rw [← hrest] at hmore
  exact absurd (List.cons.inj (List.cons.inj hmore).2).1 (by decide)

namespace MarksAt

variable {content : Text} {start bodyStart start' bodyStart' : Nat}

theorem opensAt (h : MarksAt content start bodyStart) : OpensAt content start bodyStart := by
  obtain ⟨hle, hread | hread⟩ := h
  · exact ReadsMarker.opensAt (.inl rfl) (by decide) (by decide) hle hread
  · exact ReadsMarker.opensAt (.inr rfl) (by decide) (by decide) hle hread

/-- No marker opens within another one. -/
theorem apart (h : MarksAt content start bodyStart) (h' : MarksAt content start' bodyStart') (hlt : start < start') :
    bodyStart ≤ start' := by
  by_contra hinside
  obtain rfl | hlater : start' = start + 1 ∨ start + 2 ≤ start' := by omega
  · have hlong := h.opensAt.long
    rcases h'.opensAt.second with hsecond | hsecond
    · exact absurd (h.opensAt.quiet (start + 1 + 1) '*' (by omega) (by omega) hsecond) (by decide)
    · exact absurd (h.opensAt.quiet (start + 1 + 1) '/' (by omega) (by omega) hsecond) (by decide)
  · exact absurd (h.opensAt.quiet start' '/' hlater (by omega) h'.opensAt.slash) (by decide)

theorem bodyStart_unique (h : MarksAt content start bodyStart) (h' : MarksAt content start bodyStart') :
    bodyStart = bodyStart' := by
  have hdrop : content.drop bodyStart = content.drop bodyStart' := by
    rcases h.2 with hread | hread <;> rcases h'.2 with hread' | hread'
    · exact hread.unique hread'
    · exact absurd hread' hread.not_readsLineComment
    · exact absurd hread hread'.not_readsLineComment
    · exact hread.unique hread'
  have hlen := congrArg List.length hdrop
  have hle := h.1
  have hle' := h'.1
  rw [List.length_drop, List.length_drop] at hlen
  omega

/-- A list that starts behind another one starts behind a marker that does, too. -/
theorem behind (h : MarksAt content start bodyStart) (h' : MarksAt content start' bodyStart')
    (hlt : bodyStart < bodyStart') : bodyStart ≤ start' := by
  rcases Nat.lt_trichotomy start start' with hbefore | rfl | hafter
  · exact h.apart h' hbefore
  · have hsame := h.bodyStart_unique h'
    omega
  · have hle := h'.apart h hafter
    have hlong := h.opensAt.long
    omega

theorem start_unique (h : MarksAt content start bodyStart) (h' : MarksAt content start' bodyStart) :
    start = start' := by
  rcases Nat.lt_trichotomy start start' with hbefore | heq | hafter
  · have hle := h.apart h' hbefore
    have hlong := h'.opensAt.long
    omega
  · exact heq
  · have hle := h'.apart h hafter
    have hlong := h.opensAt.long
    omega

end MarksAt

end SuppressionAudit

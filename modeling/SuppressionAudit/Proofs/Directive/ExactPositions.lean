import SuppressionAudit.Directive.Extraction
import SuppressionAudit.Proofs.Directive.BlockComments
import SuppressionAudit.Proofs.Directive.LineForms

/-!
# Exact positions

The position of a suppression is compared with the text itself. A suppression of a line form has an
offset in the text: there its directive names the rule, and from there its line is counted back to the
start of the text and its column back to the start of the line. The two scans count in different ways,
one from the start of the text and one along the lines without their carriage returns; both come to the
same place. Suppressions of block directives are all reported at the start.
-/

namespace SuppressionAudit

/-! ### Positions counted back from an offset -/

/-- The line that an offset lies on starts at `lineStart`: at the start of the text or behind a newline,
with no other newline before the offset. -/
structure LineStartsAt (content : Text) (offset lineStart : Nat) : Prop where
  le : lineStart ≤ offset
  opens : lineStart = 0 ∨ content[lineStart - 1]? = some '\n'
  stays : ∀ j, lineStart ≤ j → j < offset → content[j]? ≠ some '\n'

/-- `p` is the position of an offset, counted from one. -/
structure StandsAt (content : Text) (offset : Nat) (p : Position) : Prop where
  line : p.line = (content.take offset).count '\n' + 1
  column : ∃ lineStart, LineStartsAt content offset lineStart ∧ p.column = offset - lineStart + 1

theorem standsAt_of_line {before line : Text} (after : Text) (hline : '\n' ∉ line)
    (hbefore : before = [] ∨ before.getLast? = some '\n') :
    StandsAt (before ++ line ++ after) (before.length + line.length)
      ⟨before.count '\n' + 1, line.length + 1⟩ := by
  have htake : (before ++ line ++ after).take (before.length + line.length) = before ++ line := by
    rw [← List.length_append, List.take_left]
  refine ⟨?_, before.length, ⟨Nat.le_add_right _ _, ?_, ?_⟩, ?_⟩
  · rw [htake, List.count_append, List.count_eq_zero.2 hline, Nat.add_zero]
  · rcases hbefore with rfl | hlast
    · exact .inl rfl
    · refine .inr ?_
      have hpos : 0 < before.length := by
        cases before with
        | nil => simp at hlast
        | cons c before => simp
      rw [List.append_assoc, List.getElem?_append_left (by omega), ← List.getLast?_eq_getElem?]
      exact hlast
  · intro j hle hlt hj
    obtain ⟨k, rfl⟩ : ∃ k, j = before.length + k := ⟨j - before.length, by omega⟩
    have hk : k < line.length := by omega
    rw [List.append_assoc, List.getElem?_append_right hle, Nat.add_sub_cancel_left,
      List.getElem?_append_left hk] at hj
    exact hline (List.mem_of_getElem? hj)
  · dsimp only
    omega

theorem standsAt_positionAt {content : Text} {offset : Nat} (h : offset ≤ content.length) :
    StandsAt content offset (positionAt content offset) := by
  -- the text before the offset, cut behind its last newline
  let front := content.take offset
  let line := (front.reverse.takeWhile fun c => c != '\n').reverse
  let before := (front.reverse.dropWhile fun c => c != '\n').reverse
  have hrun := Run.of_takeWhile (fun c => c != '\n') front.reverse
  have hfront : before ++ line = front := by
    simp only [before, line, ← List.reverse_append, List.takeWhile_append_dropWhile,
      List.reverse_reverse]
  have hline : '\n' ∉ line := by
    intro hmem
    have hin := hrun.inside '\n' (List.mem_reverse.1 hmem)
    simp at hin
  have hbefore : before = [] ∨ before.getLast? = some '\n' := by
    cases hrest : front.reverse.dropWhile fun c => c != '\n' with
    | nil => exact .inl (by simp [before, hrest])
    | cons c rest =>
      have hc := hrun.stops c (by rw [hrest]; rfl)
      obtain rfl : c = '\n' := by simpa using hc
      exact .inr (by simp [before, hrest])
  have hlen : before.length + line.length = offset := by
    rw [← List.length_append, hfront]
    exact List.length_take_of_le h
  have hcontent : before ++ line ++ content.drop offset = content := by
    rw [hfront]
    exact List.take_append_drop offset content
  have hplace : positionAt content offset = ⟨before.count '\n' + 1, line.length + 1⟩ := by
    have hcount : front.count '\n' = before.count '\n' := by
      rw [← hfront, List.count_append, List.count_eq_zero.2 hline, Nat.add_zero]
    have hcolumn : line.length = (front.reverse.takeWhile fun c => c != '\n').length :=
      List.length_reverse
    rw [hcolumn, ← hcount]
    rfl
  have hstands := standsAt_of_line (content.drop offset) hline hbefore
  rwa [hcontent, hlen, ← hplace] at hstands

theorem LineStartsAt.unique {content : Text} {offset lineStart other : Nat}
    (h : LineStartsAt content offset lineStart) (hother : LineStartsAt content offset other) : lineStart = other := by
  have hle := h.le
  have hle' := hother.le
  -- the later one would stand behind a newline of the line that starts at the earlier one
  rcases Nat.lt_trichotomy lineStart other with hlt | heq | hgt
  · rcases hother.opens with h0 | hnewline
    · omega
    · exact absurd hnewline (h.stays _ (by omega) (by omega))
  · exact heq
  · rcases h.opens with h0 | hnewline
    · omega
    · exact absurd hnewline (hother.stays _ (by omega) (by omega))

namespace StandsAt

variable {content : Text} {offset other : Nat} {p q : Position}

theorem one_le (h : StandsAt content offset p) : 1 ≤ p.line ∧ 1 ≤ p.column := by
  obtain ⟨lineStart, -, hcolumn⟩ := h.column
  rw [h.line, hcolumn]
  exact ⟨Nat.le_add_left 1 _, Nat.le_add_left 1 _⟩

theorem unique (h : StandsAt content offset p) (hq : StandsAt content offset q) : p = q := by
  obtain ⟨hline, lineStart, hstart, hcolumn⟩ := h
  obtain ⟨hline', start', hstart', hcolumn'⟩ := hq
  obtain rfl := hstart.unique hstart'
  cases p
  cases q
  simp only [Position.mk.injEq] at *
  omega

/-- Offsets further on in a text stand at other positions. -/
theorem ne_of_lt (h : StandsAt content offset p) (hlt : offset < other) : ¬ StandsAt content other p := by
  rintro ⟨hline', start', hstart', hcolumn'⟩
  obtain ⟨hline, lineStart, hstart, hcolumn⟩ := h
  have hle := hstart.le
  have hle' := hstart'.le
  rcases hstart'.opens with h0 | hnewline
  · omega
  -- on one line the column grows, and on another one the line does
  rcases Nat.lt_or_ge (start' - 1) offset with hbefore | hbetween
  · exact hstart.stays _ (by omega) hbefore hnewline
  · have hcut : content.take other = content.take offset ++ (content.drop offset).take (other - offset) := by
      rw [← List.take_add, Nat.add_sub_cancel' (Nat.le_of_lt hlt)]
    have hmem : '\n' ∈ (content.drop offset).take (other - offset) := by
      refine List.mem_of_getElem? (i := start' - 1 - offset) ?_
      rw [List.getElem?_take_of_lt (by omega), List.getElem?_drop, Nat.add_sub_cancel' hbetween]
      exact hnewline
    have hcount := List.count_pos_iff.2 hmem
    rw [hcut, List.count_append] at hline'
    omega

theorem offset_unique (h : StandsAt content offset p) (hother : StandsAt content other p) : offset = other := by
  rcases Nat.lt_trichotomy offset other with hlt | heq | hgt
  · exact absurd hother (h.ne_of_lt hlt)
  · exact heq
  · exact absurd h (hother.ne_of_lt hgt)

end StandsAt

/-! ### Where lines start -/

/-- The offset at which a row starts in a text with these lines. -/
def rowStart : List Text → Nat → Nat
  | _, 0 => 0
  | [], _ + 1 => 0
  | line :: lines, row + 1 => line.length + 1 + rowStart lines row

/-- The text before a row ends with the newline of the row above, and the text behind it begins with its own. -/
theorem exists_before_row {lines : List Text} {row : Nat} {line : Text} (h : lines[row]? = some line)
    (hlines : ∀ l ∈ lines, '\n' ∉ l) :
    ∃ before after, Text.joinWith ['\n'] lines = before ++ line ++ after ∧
      before.length = rowStart lines row ∧ before.count '\n' = row ∧
      (before = [] ∨ before.getLast? = some '\n') ∧ ∀ c ∈ after.head?, c = '\n' := by
  induction lines generalizing row with
  | nil => simp at h
  | cons first rest ih =>
    cases row with
    | zero =>
      obtain rfl : first = line := by simpa using h
      cases rest with
      | nil => exact ⟨[], [], by simp [Text.joinWith], rfl, rfl, .inl rfl, by simp⟩
      | cons next more =>
        exact ⟨[], ['\n'] ++ Text.joinWith ['\n'] (next :: more), by simp [Text.joinWith], rfl, rfl, .inl rfl,
          by simp⟩
    | succ row =>
      have hrow : rest[row]? = some line := by simpa using h
      have hfirst : '\n' ∉ first := hlines first List.mem_cons_self
      obtain ⟨before, after, hjoin, hlen, hcount, hend, hnext⟩ :=
        ih hrow fun l hl => hlines l (List.mem_cons_of_mem _ hl)
      cases rest with
      | nil => simp at hrow
      | cons next more =>
        refine ⟨first ++ ['\n'] ++ before, after, ?_, ?_, ?_, .inr ?_, hnext⟩
        · simp only [Text.joinWith, hjoin, List.append_assoc]
        · simp only [rowStart, ← hlen, List.length_append, List.length_singleton]
        · simp only [List.count_append, List.count_eq_zero.2 hfirst, hcount, List.count_singleton_self]
          omega
        · rcases hend with rfl | hlast
          · simp
          · rw [List.getLast?_append, hlast]
            rfl

/-- A row of a text without the carriage returns at its end: `before` holds the rows above, and `after` goes
on behind `line`. -/
structure RowCut (content : Text) (row : Nat) (before line after : Text) : Prop where
  eq : content = before ++ line ++ after
  start : before.length = rowStart (List.splitOn '\n' content) row
  count : before.count '\n' = row
  opens : before = [] ∨ before.getLast? = some '\n'
  stays : '\n' ∉ line
  ends : ∀ c ∈ after.head?, c = '\r' ∨ c = '\n'

namespace RowCut

variable {content before line after : Text} {row n : Nat}

theorem standsAt (h : RowCut content row before line after) (hn : n ≤ line.length) :
    StandsAt content (before.length + n) ⟨row + 1, n + 1⟩ := by
  have hfront : '\n' ∉ line.take n := fun hmem => h.stays (List.mem_of_mem_take hmem)
  have hcut : before ++ line.take n ++ (line.drop n ++ after) = content := by
    rw [h.eq, List.append_assoc, ← List.append_assoc (line.take _), List.take_append_drop,
      List.append_assoc before line]
  have hstands := standsAt_of_line (line.drop n ++ after) hfront h.opens
  rwa [hcut, h.count, List.length_take_of_le hn] at hstands

theorem drop_eq (h : RowCut content row before line after) (hn : n ≤ line.length) :
    content.drop (before.length + n) = line.drop n ++ after := by
  rw [h.eq, ← List.drop_drop, List.append_assoc, List.drop_left, List.drop_append_of_le_length hn]

end RowCut

theorem LineDirective.LiesIn.cut {content : Text} {d : LineDirective} (h : d.LiesIn content) :
    ∃ before line after start, RowCut content d.row before line after ∧ d.bodyStart ≤ line.length ∧
      d.body = line.drop d.bodyStart ∧ ReadsLineComment (line.drop start) d.body := by
  obtain ⟨line, returns, start, hraw, -, hle, hbody, hread, -⟩ := h
  have hlines : ∀ l ∈ List.splitOn '\n' content, '\n' ∉ l := by
    rw [← Text.splitOn_eq]
    exact fun l hl => Text.notMem_of_mem_splitOn hl
  obtain ⟨before, after, hjoin, hlen, hcount, hend, hnext⟩ := exists_before_row hraw hlines
  -- the carriage returns at the end of the line lie behind the rule list
  refine ⟨before, line, List.replicate returns '\r' ++ after, start, ⟨?_, hlen, hcount, hend, ?_, ?_⟩, hle, hbody,
    hread⟩
  · rw [← Text.joinWith_splitOn '\n' content, Text.splitOn_eq, hjoin]
    simp only [List.append_assoc]
  · intro hmem
    exact hlines _ (List.mem_of_getElem? hraw) (List.mem_append_left _ hmem)
  · intro c hc
    cases returns with
    | zero => exact .inr (hnext c hc)
    | succ returns => exact .inl (Option.some.inj hc).symm

/-! ### Where rules are named -/

/-- A line form in a text has its rule list at an offset. -/
def HoldsRuleList (content : Text) (bodyStart : Nat) (body : Text) : Prop :=
  (∃ start, QualifiedDirective.LiesIn content ⟨start, bodyStart, body⟩) ∨
    ∃ row column, LineDirective.LiesIn content ⟨row, column, body⟩ ∧
      bodyStart = rowStart (List.splitOn '\n' content) row + column

theorem HoldsRuleList.body_prefix {content body : Text} {bodyStart : Nat}
    (h : HoldsRuleList content bodyStart body) : body <+: content.drop bodyStart := by
  rcases h with ⟨start, -, -, hbody⟩ | ⟨row, column, hlies, rfl⟩
  · have hread : Qualified.bodyOf (content.drop bodyStart) = body := Qualified.bodyOf_eq_iff.2 hbody
    exact hread ▸ Qualified.bodyOf_prefix (content.drop bodyStart)
  · obtain ⟨before, line, after, start, hcut, hle, hbody, -⟩ := hlies.cut
    have hdrop := hcut.drop_eq hle
    rw [← hbody, hcut.start] at hdrop
    exact ⟨after, hdrop.symm⟩

/-- A line form in a text names the rule of a suppression at an offset and gives its reason. -/
def NamesAt (content : Text) (offset : Nat) (s : Suppression) : Prop :=
  ∃ bodyStart body mention, HoldsRuleList content bodyStart body ∧
    mention ∈ (RuleList.parse body).rules ∧ mention.name = s.rule ∧
    (RuleList.parse body).justification = s.justification ∧ offset = bodyStart + mention.offset

/-- What a rule list names is written where its place in the list says. -/
theorem HoldsRuleList.exact {content body : Text} {bodyStart : Nat} (h : HoldsRuleList content bodyStart body)
    {mention : RuleMention} (hmention : mention ∈ (RuleList.parse body).rules) {p : Position}
    (hstands : StandsAt content (bodyStart + mention.offset) p) :
    ∃ offset, NamesAt content offset ⟨mention.name, p, (RuleList.parse body).justification, .line⟩ ∧
      (content.drop offset).take mention.name.length = mention.name ∧ StandsAt content offset p := by
  have hwritten := (RuleList.writes_of_mem_parse hmention).take_drop h.body_prefix
  exact ⟨_, ⟨_, _, mention, h, hmention, rfl, rfl, rfl⟩, hwritten, hstands⟩

theorem Qualified.exact {content : Text} {s : Suppression} (h : s ∈ suppressions content) :
    s.kind = .line ∧ ∃ offset, NamesAt content offset s ∧
      (content.drop offset).take s.rule.length = s.rule ∧ StandsAt content offset s.position := by
  rw [suppressions_eq, List.mem_flatMap] at h
  obtain ⟨d, hd, hs⟩ := h
  have hlies := ((directives_enumerate content).mem_iff d).1 hd
  obtain ⟨mention, hmention, rfl⟩ := List.mem_map.1 hs
  have hholds : HoldsRuleList content d.bodyStart d.body := .inl ⟨d.start, hlies⟩
  have hinside : d.bodyStart + mention.offset ≤ content.length := by
    have hbodyStart := hlies.1
    have hoffset := (RuleList.writes_of_mem_parse hmention).offset_le
    have hlen := hholds.body_prefix.length_le
    rw [List.length_drop] at hlen
    omega
  exact ⟨rfl, hholds.exact hmention (standsAt_positionAt hinside)⟩

theorem LineComment.exact {content : Text} {s : Suppression} (h : s ∈ suppressions content) :
    s.kind = .line ∧ ∃ offset, NamesAt content offset s ∧
      (content.drop offset).take s.rule.length = s.rule ∧ StandsAt content offset s.position := by
  rw [suppressions_eq, List.mem_flatMap] at h
  obtain ⟨d, hd, hs⟩ := h
  have hlies := ((directives_enumerate content).mem_iff d).1 hd
  obtain ⟨mention, hmention, rfl⟩ := List.mem_map.1 hs
  obtain ⟨before, line, after, start, hcut, hle, hbody, -⟩ := hlies.cut
  have hholds : HoldsRuleList content (before.length + d.bodyStart) d.body :=
    .inr ⟨d.row, d.bodyStart, hlies, by rw [hcut.start]⟩
  have hlength : d.bodyStart + mention.offset ≤ line.length := by
    have hoffset := (RuleList.writes_of_mem_parse hmention).offset_le
    rw [hbody, List.length_drop] at hoffset
    omega
  have hstands := hcut.standsAt hlength
  rw [← Nat.add_assoc] at hstands
  exact ⟨rfl, hholds.exact hmention hstands⟩

theorem exact_of_mem_lineForms {content : Text} {s : Suppression}
    (h : s ∈ Qualified.suppressions content ∨ s ∈ LineComment.suppressions content) :
    s.kind = .line ∧ ∃ offset, NamesAt content offset s ∧
      (content.drop offset).take s.rule.length = s.rule ∧ StandsAt content offset s.position :=
  h.elim Qualified.exact LineComment.exact

/-! ### Every position -/

theorem Block.position_eq {content : Text} {s : Suppression} (h : s ∈ suppressions content) :
    s.kind = .block ∧ s.position = ⟨1, 1⟩ := by
  rw [suppressions_eq, List.mem_flatMap] at h
  obtain ⟨c, -, hs⟩ := h
  obtain ⟨mention, -, rfl⟩ := List.mem_map.1 hs
  exact ⟨rfl, rfl⟩

/-- Suppressions of block directives stand at the start of a text. Every other one stands at an offset
at which a line form names its rule: there the rule is written, and the line and the column are those of
the offset, counted back to the start of the text and to the start of the line. -/
theorem every_position_is_exact (content : Text) (s : Suppression) (h : s ∈ extractSuppressions content) :
    (s.kind = .block → s.position = ⟨1, 1⟩) ∧
    (s.kind = .line → ∃ offset, NamesAt content offset s ∧
      (content.drop offset).take s.rule.length = s.rule ∧ StandsAt content offset s.position) := by
  rcases mem_extractSuppressions.1 h with hblock | hqualified | hline
  · obtain ⟨hkind, hposition⟩ := Block.position_eq hblock
    refine ⟨fun _ => hposition, fun hline => ?_⟩
    rw [hkind] at hline
    exact absurd hline SuppressionKind.noConfusion
  · obtain ⟨hkind, hexact⟩ := Qualified.exact hqualified
    refine ⟨fun hblock => ?_, fun _ => hexact⟩
    rw [hkind] at hblock
    exact absurd hblock SuppressionKind.noConfusion
  · obtain ⟨hkind, hexact⟩ := LineComment.exact hline
    refine ⟨fun hblock => ?_, fun _ => hexact⟩
    rw [hkind] at hblock
    exact absurd hblock SuppressionKind.noConfusion

def wrappedText : Text :=
  "/* eslint-disable q */\r\n/* eslint-disable-line x, y\r\n\t, semi */ semi // eslint-disable-line semi\r\n".toList

/-- One name on one line three times: in a wrapped directive, in the code and in a line comment. -/
theorem positions_are_exact_in_wrapped_text :
    ((⟨"semi".toList, ⟨3, 4⟩, none, .line⟩ : Suppression) ∈ extractSuppressions wrappedText ∧
      ∃ offset, NamesAt wrappedText offset ⟨"semi".toList, ⟨3, 4⟩, none, .line⟩ ∧
        (wrappedText.drop offset).take 4 = "semi".toList ∧ StandsAt wrappedText offset ⟨3, 4⟩) ∧
    (⟨"semi".toList, ⟨3, 40⟩, none, .line⟩ : Suppression) ∈ extractSuppressions wrappedText ∧
      ∃ offset, NamesAt wrappedText offset ⟨"semi".toList, ⟨3, 40⟩, none, .line⟩ ∧
        (wrappedText.drop offset).take 4 = "semi".toList ∧ StandsAt wrappedText offset ⟨3, 40⟩ := by
  have hwrapped : (⟨"semi".toList, ⟨3, 4⟩, none, .line⟩ : Suppression)
      ∈ extractSuppressions wrappedText := by decide +kernel
  have hcomment : (⟨"semi".toList, ⟨3, 40⟩, none, .line⟩ : Suppression)
      ∈ extractSuppressions wrappedText := by decide +kernel
  exact ⟨⟨hwrapped, (every_position_is_exact _ _ hwrapped).2 rfl⟩,
    hcomment, (every_position_is_exact _ _ hcomment).2 rfl⟩

end SuppressionAudit

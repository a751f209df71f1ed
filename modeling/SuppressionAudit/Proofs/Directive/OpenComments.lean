import SuppressionAudit.Directive.Extraction
import SuppressionAudit.Proofs.Directive.LineForms

/-!
# Comments that are never closed

A qualified directive whose comment is never closed reads one line, the one that its rule list starts on. The
blanks between the qualifier and the list may hold newlines, and then that line is not the line of the marker:
what stands first behind these blanks is read as a rule, however far down it is. The directive keeps to the line
of its marker exactly when these blanks hold no newline, or nothing is named.
-/

namespace SuppressionAudit

/-- A text, cut around the marker of a qualified directive in it. -/
structure OpenDirective where
  before : Text
  blanks : Text
  qualifier : Text
  gap : Text
  rest : Text

namespace OpenDirective

def marker (d : OpenDirective) : Text :=
  ['/', '*'] ++ d.blanks ++ "eslint-disable".toList ++ d.qualifier ++ d.gap

def content (d : OpenDirective) : Text := d.before ++ (d.marker ++ d.rest)

/-- The parts are those of a marker, and the comment that it opens is never closed. -/
structure IsOpen (d : OpenDirective) : Prop where
  blank : ∀ c ∈ d.blanks, isBlank c = true
  qualified : d.qualifier ∈ ["-line".toList, "-next-line".toList]
  separated : d.gap ≠ []
  run : Run isBlank d.gap d.rest
  unclosed : ¬ ['*', '/'] <:+: d.rest

/-- The line on which the keyword stands. -/
def markerLine (d : OpenDirective) : Nat := (d.before ++ ['/', '*'] ++ d.blanks).count '\n' + 1

/-- The text from the start of the rule list to the end of the line. -/
def listText (d : OpenDirective) : Text := d.rest.takeWhile fun c => c != '\n'

/-- What the directive contributes. -/
def found (d : OpenDirective) : List Suppression :=
  Qualified.suppressionsHere (positionAt d.content d.before.length) (d.content.drop d.before.length)

variable {d : OpenDirective}

theorem drop_content (d : OpenDirective) : d.content.drop d.before.length = d.marker ++ d.rest :=
  List.drop_left

theorem newline_notMem_listText (d : OpenDirective) : '\n' ∉ d.listText := by
  have hrun := Run.of_takeWhile (fun c => c != '\n') d.rest
  intro hmem
  have hin := hrun.inside '\n' hmem
  simp at hin

theorem IsOpen.reads (h : d.IsOpen) : ReadsQualified (d.marker ++ d.rest) d.rest :=
  ⟨d.blanks, d.qualifier, d.gap, rfl, h.blank, h.qualified, h.separated, h.run⟩

theorem IsOpen.bodyOf_rest (h : d.IsOpen) : Qualified.bodyOf d.rest = d.listText := by
  have hnone : Text.splitAtFirst? Marker.blockClosing d.rest = none :=
    (Text.splitAtFirst?_eq_none_iff (by decide)).2 h.unclosed
  rw [Qualified.bodyOf, hnone, listText]

theorem IsOpen.found_eq (h : d.IsOpen) :
    d.found = (RuleList.parse d.listText).suppressionsAt .line fun mention =>
      (Position.start.after (d.before ++ d.marker)).after (d.listText.take mention.offset) := by
  have hread := Marker.qualified?_eq_some_iff.2 h.reads
  have hfront : (d.marker ++ d.rest).take ((d.marker ++ d.rest).length - d.rest.length) = d.marker := by
    rw [List.length_append, Nat.add_sub_cancel, List.take_left]
  have hstart : positionAt d.content d.before.length = Position.start.after d.before := by
    rw [← Position.start_after_take, content, List.take_left]
  rw [found, Qualified.suppressionsHere, drop_content, hread]
  simp only [h.bodyOf_rest, hfront, hstart, Position.after_append]

/-- The keyword and the qualifier stay on their line. -/
theorem IsOpen.count_marker (h : d.IsOpen) :
    (d.before ++ d.marker).count '\n' + 1 = d.markerLine + d.gap.count '\n' := by
  have hqualifiers : ∀ q ∈ ["-line".toList, "-next-line".toList], q.count '\n' = 0 := by decide
  have hkeyword : "eslint-disable".toList.count '\n' = 0 := by decide
  have hqualifier := hqualifiers d.qualifier h.qualified
  simp only [marker, markerLine, List.count_append] at *
  omega

theorem IsOpen.line_of_mem (h : d.IsOpen) {s : Suppression} (hs : s ∈ d.found) :
    s.position.line = d.markerLine + d.gap.count '\n' := by
  rw [h.found_eq] at hs
  obtain ⟨mention, -, rfl⟩ := List.mem_map.1 hs
  have hline : (d.listText.take mention.offset).count '\n' = 0 :=
    List.count_eq_zero.2 fun hmem => d.newline_notMem_listText (List.mem_of_mem_take hmem)
  have hmarker := h.count_marker
  have hone : Position.start.line = 1 := rfl
  rw [Position.after_line, Position.after_line, hline, hone]
  omega

theorem newline_notMem_rule (h : d.IsOpen) {s : Suppression} (hs : s ∈ d.found) : '\n' ∉ s.rule := by
  rw [h.found_eq] at hs
  obtain ⟨mention, hmention, rfl⟩ := List.mem_map.1 hs
  obtain ⟨front, back, hlist, -⟩ := RuleList.writes_of_mem_parse hmention
  have hnone := d.newline_notMem_listText
  rw [hlist] at hnone
  exact fun hmem => hnone (List.mem_append_left _ (List.mem_append_right _ hmem))

theorem map_rule_found (h : d.IsOpen) : d.found.map Suppression.rule = (RuleList.parse d.listText).names := by
  rw [h.found_eq, RuleList.suppressionsAt, List.map_map]
  rfl

/-- What a directive contributes is extracted. -/
theorem mem_extractSuppressions_of_mem_found {s : Suppression} (hs : s ∈ d.found) :
    s ∈ extractSuppressions d.content := by
  rw [found, Qualified.suppressionsHere_eq] at hs
  obtain ⟨directive, hdirective, hs⟩ := List.mem_flatMap.1 hs
  have hread := Qualified.directiveAt?_eq_some_iff.1 (Option.mem_toList.1 hdirective)
  refine mem_extractSuppressions.2 (.inr (.inl ?_))
  rw [Qualified.suppressions_eq]
  refine List.mem_flatMap.2 ⟨directive, ?_, hs⟩
  exact ((Qualified.directives_enumerate d.content).mem_iff directive).2 hread.1

end OpenDirective

/-- A qualified directive that is never closed names the rules on one line, as many lines below its marker as
there are newlines behind its qualifier. So it keeps to the line of its marker when there is none or when it
names nothing, and in no other case. -/
theorem open_directive_reads_one_line (d : OpenDirective) (h : d.IsOpen) :
    (d.found.map Suppression.rule = (RuleList.parse d.listText).names ∧
      ∀ s ∈ d.found, s ∈ extractSuppressions d.content ∧ '\n' ∉ s.rule ∧
        s.position.line = d.markerLine + d.gap.count '\n') ∧
    ((∀ s ∈ d.found, s.position.line = d.markerLine) ↔ '\n' ∉ d.gap ∨ d.found = []) := by
  refine ⟨⟨OpenDirective.map_rule_found h, fun s hs => ?_⟩, ?_⟩
  · exact ⟨OpenDirective.mem_extractSuppressions_of_mem_found hs, OpenDirective.newline_notMem_rule h hs,
      h.line_of_mem hs⟩
  · rw [← List.count_eq_zero]
    constructor
    · intro hall
      cases hfound : d.found with
      | nil => exact .inr rfl
      | cons s found =>
        have hs : s ∈ d.found := by
          rw [hfound]
          exact List.mem_cons_self
        have hmarker := hall s hs
        have hline := h.line_of_mem hs
        left
        omega
    · rintro (hgap | hnone) s hs
      · have hline := h.line_of_mem hs
        omega
      · rw [hnone] at hs
        exact absurd hs List.not_mem_nil

/-- The list is on the line of its marker, and code follows on the next one. -/
theorem open_directive_reads_its_line :
    let d : OpenDirective := ⟨"x();\n".toList, [' '], "-line".toList, ['\t', ' '], "a, b -- c\ny();\n".toList⟩
    d.IsOpen ∧ d.content = "x();\n/* eslint-disable-line\t a, b -- c\ny();\n".toList ∧
      d.found.map Suppression.rule = [['a'], ['b']] ∧ ∀ s ∈ d.found, s.position.line = 2 := by
  intro d
  have hopen : d.IsOpen := by
    refine ⟨List.all_eq_true.1 (by decide), by decide, by decide, ⟨List.all_eq_true.1 (by decide), ?_⟩, by decide +kernel⟩
    rintro c ⟨⟩
    rfl
  have hread := open_directive_reads_one_line d hopen
  have hnames : (RuleList.parse d.listText).names = [['a'], ['b']] := by decide +kernel
  have hline : d.markerLine = 2 := by decide +kernel
  refine ⟨hopen, by decide +kernel, hread.1.1.trans hnames, ?_⟩
  rw [← hline]
  exact hread.2.2 (.inl (by decide))

/-- With the marker at the end of its line, the code below it is taken for a rule. -/
theorem open_directive_reads_code_below :
    ¬ ∀ d : OpenDirective, d.IsOpen → ∀ s ∈ d.found, s.position.line = d.markerLine := by
  intro hall
  let d : OpenDirective := ⟨"x(); ".toList, [' '], "-line".toList, ['\n'], "y();\n".toList⟩
  have hopen : d.IsOpen := by
    refine ⟨List.all_eq_true.1 (by decide), by decide, by decide, ⟨List.all_eq_true.1 (by decide), ?_⟩, by decide +kernel⟩
    rintro c ⟨⟩
    rfl
  have hfound : d.found = [⟨"y();".toList, ⟨2, 1⟩, none, .line⟩] := by decide +kernel
  have hline := hall d hopen ⟨"y();".toList, ⟨2, 1⟩, none, .line⟩ (by rw [hfound]; exact List.mem_cons_self)
  exact absurd hline (by decide +kernel)

end SuppressionAudit

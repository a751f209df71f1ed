import SuppressionAudit.Proofs.Report.Groups
import SuppressionAudit.Proofs.Report.Paths
import SuppressionAudit.Proofs.Report.Tables

/-!
# Complete reports

A report is printed to its end where its texts can be cut and its paths are plain, and then the panel
of each file shows its path as it is.
-/

namespace SuppressionAudit

open Text (joiner joiner_not_mem_append)

/-! ### Printing -/

namespace Report

/-- Whether a style can be shown. -/
def CanShow (style : Text) : Prop := Markup.isMalformed style = false

namespace Printed

theorem fault_andThen {first second : Printed} :
    (first.andThen second).fault = none ↔ first.fault = none ∧ second.fault = none := by
  unfold andThen
  cases h : first.fault with
  | some fault => simp [h]
  | none => simp

theorem fault_ofLines (width : Nat) {lines : List Line} (h : ∀ line ∈ lines, line.IsCalm) :
    (ofLines width lines).fault = none := by
  induction lines with
  | nil => rfl
  | cons line lines ih =>
    obtain ⟨cut, hcut, -⟩ := (h line List.mem_cons_self).crop_ok width
    have hrest := ih fun other hother => h other (List.mem_cons_of_mem line hother)
    simp only [ofLines, hcut, fault_andThen, hrest, and_self]

theorem fault_ofLayout (width : Nat) {layout : Except ReportFault (List Line)}
    (h : ∃ lines, layout = .ok lines ∧ ∀ line ∈ lines, line.IsCalm) :
    (ofLayout width layout).fault = none := by
  obtain ⟨lines, rfl, hcalm⟩ := h
  unfold ofLayout
  split
  · rfl
  · exact fault_ofLines width hcalm

end Printed

theorem checkStyles_ok {lines : List StyledText} (h : ∀ t ∈ lines, t.IsSettled CanShow) :
    checkStyles (.ok lines) = .ok lines := by
  have hnone : Markup.styleError? lines = none := by
    unfold Markup.styleError?
    rw [if_neg]
    rw [Bool.not_eq_true, List.any_eq_false]
    intro t ht
    rw [Bool.not_eq_true, List.any_eq_false]
    intro span hspan
    cases hstyle : span.style with
    | none => simp
    | some style =>
      have hmem := StyledText.mem_styles_iff.2 (Or.inr ⟨span, hspan, hstyle⟩)
      have hgood : Markup.isMalformed style = false := (h t ht).styles style hmem
      simp [hgood]
  simp only [checkStyles, hnone]

theorem settled_highlighted {t : StyledText} (h : t.IsSettled CanShow) :
    t.highlighted.IsSettled CanShow := by
  refine ⟨h.calm, fun s hs => ?_⟩
  rcases StyledText.mem_styles_iff.1 hs with hstyle | ⟨span, hspan, hstyle⟩
  · exact h.styles s (StyledText.mem_styles_iff.2 (Or.inl hstyle))
  · rcases List.mem_append.1 hspan with hspan | hspan
    · obtain ⟨mark, -, rfl⟩ := List.mem_map.1 hspan
      cases hstyle
    · exact h.styles s (StyledText.mem_styles_iff.2 (Or.inr ⟨span, hspan, hstyle⟩))

theorem settled_plain {good : Text → Prop} {s : Text} (h : Text.IsCalm s) :
    (StyledText.plain s).IsSettled good :=
  ⟨h, fun style hstyle => by simp [StyledText.styles, StyledText.plain] at hstyle⟩

theorem fault_printText (width : Nat) {t : StyledText} (h : t.IsSettled CanShow) :
    (printText width t).fault = none := by
  obtain ⟨lines, hlines, hsettled⟩ := (settled_highlighted h).wrap_ok .fold width .none
  refine Printed.fault_ofLayout width ⟨lines.map StyledText.pieces, ?_, ?_⟩
  · rw [hlines, checkStyles_ok hsettled]
    rfl
  · intro line hline
    obtain ⟨u, hu, rfl⟩ := List.mem_map.1 hline
    exact Line.isCalm_pieces (hsettled u hu)

theorem fault_printBlank (width : Nat) : (printBlank width).fault = none :=
  Printed.fault_ofLayout width ⟨[[]], rfl, by simp [Line.IsCalm]⟩

theorem panelLines_ok (width : Nat) {t : StyledText} (h : t.IsSettled CanShow) :
    ∃ lines, panelLines width (.ok t) = .ok lines ∧ ∀ line ∈ lines, line.IsCalm := by
  unfold panelLines
  split
  · obtain ⟨content, hcontent, hsettled⟩ := h.wrap_ok .fold (width - 4) .none
    obtain ⟨lines, hlines, hcalm⟩ := Panel.inner_ok width hsettled
    refine ⟨lines, ?_, hcalm⟩
    simp only [Panel.wrapped, hcontent, checkStyles_ok hsettled, hlines]
    rfl
  · exact ⟨[], rfl, by simp⟩

/-! ### Findings -/

end Report

/-- Whether what is shown of a finding can be cut. -/
structure Finding.IsCalm (f : Finding) : Prop where
  path : Text.IsCalm f.filePath
  rule : Text.IsCalm (Text.dropControls f.rule)
  reason : f.justificationMissing = false → Text.IsCalm (Text.dropControls (f.justification.getD []))

namespace Report

theorem joiner_not_mem_ofNat (n : Nat) : joiner ∉ Text.ofNat n := fun h =>
  absurd (Nat.isDigit_of_mem_toDigits (by decide) (by decide) h) (by decide)

theorem joiner_not_mem_plural (count : Nat) {noun : Text} (h : joiner ∉ noun) :
    joiner ∉ ScanError.plural count noun := by
  refine joiner_not_mem_append (joiner_not_mem_append (joiner_not_mem_append
    (joiner_not_mem_ofNat count) (by decide)) h) ?_
  split <;> decide

theorem isCalm_row {f : Finding} (h : f.IsCalm) : ∀ t ∈ row f, Text.IsCalm t.text := by
  have hposition : joiner ∉ Text.ofNat f.line ++ [':'] ++ Text.ofNat f.column :=
    joiner_not_mem_append (joiner_not_mem_append (joiner_not_mem_ofNat f.line) (by decide))
      (joiner_not_mem_ofNat f.column)
  have hlevel : joiner ∉ f.level.name := by cases f.level <;> decide
  have hreason : Text.IsCalm (justificationCell f).text := by
    unfold justificationCell
    split
    · have hmissing : joiner ∉ "missing".toList := by decide
      exact Text.isCalm_of_not_mem hmissing
    · next hmissing => exact h.reason (Bool.eq_false_iff.2 hmissing)
  intro t ht
  simp only [row, List.mem_cons, List.not_mem_nil, or_false] at ht
  rcases ht with rfl | rfl | rfl | rfl
  · exact Text.isCalm_of_not_mem hposition
  · exact Text.isCalm_of_not_mem hlevel
  · exact h.rule
  · exact hreason

theorem isCalm_columns : ∀ column ∈ columns, Text.IsCalm column.header := by
  have hall : ∀ column ∈ columns, joiner ∉ column.header := by decide
  exact fun column hcolumn => Text.isCalm_of_not_mem (hall column hcolumn)

theorem canShow_openingBody : CanShow Markup.openingBody := by
  have hread : StyleName.read Markup.openingBody
      = .ok ⟨[("bold", true)], some ['c', 'y', 'a', 'n'], none, none⟩ := StyleName.read_boldCyan
  rw [CanShow, Markup.isMalformed, hread]

/-- The panel and the table of a file with a plain path are printed to the end. -/
theorem fault_printFile (width : Nat) {path : Text} {findings : List Finding}
    (hordinary : Markup.IsOrdinary path) (hplain : Markup.IsPlain path) (hpath : Text.IsCalm path)
    (hfindings : ∀ f ∈ findings, f.IsCalm) : (printFile width path findings).fault = none := by
  have hsettled : (StyledText.mk path [⟨0, path.length, some Markup.openingBody⟩] none).IsSettled
      CanShow := by
    refine ⟨hpath, fun style hstyle => ?_⟩
    obtain rfl : style = Markup.openingBody := by simpa [StyledText.styles] using hstyle
    exact canShow_openingBody
  obtain ⟨lines, hlines, hcalm⟩ := panelLines_ok width hsettled
  have hrows : ∀ cells ∈ findings.map row, ∀ t ∈ cells, Text.IsCalm t.text := by
    intro cells hcells
    obtain ⟨f, hf, rfl⟩ := List.mem_map.1 hcells
    exact isCalm_row (hfindings f hf)
  obtain ⟨laid, hlaid, hlaidCalm⟩ := Table.lines_ok width isCalm_columns hrows
  refine Printed.fault_andThen.2 ⟨Printed.fault_ofLayout width ?_, Printed.fault_ofLayout width ?_⟩
  · rw [Markup.render_pathMarkup hordinary hplain, hlines]
    exact ⟨_, rfl, Panel.isCalm_plain width hcalm⟩
  · rw [hlaid]
    exact ⟨laid, rfl, hlaidCalm⟩

theorem fault_printFiles (width : Nat) {groups : FindingGroups} :
    (printFiles width groups).fault = none ↔
      ∀ group ∈ groups, (printFile width group.1 group.2).fault = none := by
  induction groups with
  | nil => simp [printFiles, Printed.nothing]
  | cons group groups ih =>
    obtain ⟨path, findings⟩ := group
    rw [printFiles, Printed.fault_andThen, ih, List.forall_mem_cons]

/-- Where a panel has room for a path the markup of the path is read. -/
theorem render_ok_of_fault_printFile {width : Nat} (hwidth : 4 < width) {path : Text}
    {findings : List Finding} (h : (printFile width path findings).fault = none) :
    ∃ t, Markup.render (pathMarkup path) = .ok t := by
  cases hrender : Markup.render (pathMarkup path) with
  | ok t => exact ⟨t, rfl⟩
  | error e =>
    have hpanel := (Printed.fault_andThen.1 h).1
    have hlines : panelLines width (.error e) = .error (.markup e) := by
      rw [panelLines, Panel.hasRoom, decide_eq_true hwidth, if_pos rfl]
    have hzero : width ≠ 0 := by omega
    rw [hrender, hlines] at hpanel
    unfold Printed.ofLayout at hpanel
    rw [if_neg hzero] at hpanel
    cases hpanel

/-! ### Whole reports -/

theorem joiner_not_mem_summary (v : Verdict) : joiner ∉ summary v := by
  unfold summary
  split
  · exact joiner_not_mem_append (joiner_not_mem_plural _ (by decide)) (by decide)
  · split <;> decide

theorem fault_printSummary (width : Nat) (v : Verdict) : (printSummary width v).fault = none := by
  have hsettled : (StyledText.plain (summary v)).IsSettled CanShow :=
    settled_plain (Text.isCalm_of_not_mem (joiner_not_mem_summary v))
  obtain ⟨lines, hlines, hcalm⟩ := panelLines_ok width hsettled
  refine Printed.fault_andThen.2 ⟨fault_printBlank width, Printed.fault_ofLayout width ?_⟩
  rw [hlines]
  exact ⟨_, rfl, Panel.isCalm_boxed width (by decide) hcalm⟩

theorem fault_countLine (width : Nat) (v : Verdict) :
    (printText width (.plain (countLine v))).fault = none := by
  have hcount : joiner ∉ countLine v := by
    refine joiner_not_mem_append (joiner_not_mem_append (joiner_not_mem_append (joiner_not_mem_append
      (by decide) (joiner_not_mem_plural _ (by decide))) (by decide))
      (joiner_not_mem_plural _ (by decide))) (by decide)
  exact fault_printText width (settled_plain (Text.isCalm_of_not_mem hcount))

theorem fault_nothingFound (width : Nat) : (nothingFound width).fault = none := by
  have htext : joiner ∉ "✔ No disabled ESLint rules found.".toList := by decide
  exact Printed.fault_andThen.2
    ⟨fault_printText width (settled_plain (Text.isCalm_of_not_mem htext)), fault_printBlank width⟩

/-- A report on calm findings in files with plain paths is complete. -/
theorem fault_print (width : Nat) {v : Verdict}
    (hpaths : ∀ f ∈ v.findings, Markup.IsOrdinary f.filePath)
    (hplain : ∀ f ∈ v.findings, Markup.IsPlain f.filePath) (hcalm : ∀ f ∈ v.findings, f.IsCalm) :
    (print width v).fault = none := by
  unfold print
  split
  · exact fault_nothingFound width
  · refine Printed.fault_andThen.2 ⟨Printed.fault_andThen.2 ⟨fault_countLine width v, ?_⟩,
      fault_printSummary width v⟩
    refine (fault_printFiles width).2 fun group hgroup => ?_
    obtain ⟨f, hf, hpath⟩ := mem_paths_groupByFile.1 (List.mem_map_of_mem hgroup)
    rw [← hpath]
    exact fault_printFile width (hpaths f hf) (hplain f hf) (hcalm f hf).path
      fun other hother => hcalm other (mem_of_mem_groupByFile hgroup other hother)

/-- A report that is complete has read the markup of every path. -/
theorem render_ok_of_fault_print {width : Nat} (hwidth : 4 < width) {v : Verdict}
    (h : (print width v).fault = none) {group : Text × List Finding}
    (hgroup : group ∈ groupByFile v.findings) : ∃ t, Markup.render (pathMarkup group.1) = .ok t := by
  unfold print at h
  split at h
  · next hempty =>
    rw [List.isEmpty_iff.1 hempty] at hgroup
    cases hgroup
  · have hfiles := (Printed.fault_andThen.1 (Printed.fault_andThen.1 h).1).2
    exact render_ok_of_fault_printFile hwidth ((fault_printFiles width).1 hfiles group hgroup)

/-! ### Paths in reports -/

/-- Whether the panel of a file holds its path as it is. -/
def ShowsPath (path : Text) : Prop := ∃ t, Markup.render (pathMarkup path) = .ok t ∧ t.text = path

/-- The panel of a file holds its path as it is if and only if the path is plain; a report on plain
paths is complete on a console of any width, and one that is complete where panels have room has read
the markup of every path. -/
theorem path_shown_iff_plain (v : Verdict)
    (hordinary : ∀ f ∈ v.findings, Markup.IsOrdinary f.filePath) :
    (∀ group ∈ groupByFile v.findings, ShowsPath group.1 ↔ Markup.IsPlain group.1) ∧
      ((∀ f ∈ v.findings, f.IsCalm ∧ Markup.IsPlain f.filePath) →
        ∀ width, (print width v).fault = none) ∧
      ∀ width, 4 < width → (print width v).fault = none →
        ∀ group ∈ groupByFile v.findings, ∃ t, Markup.render (pathMarkup group.1) = .ok t := by
  refine ⟨fun group hgroup => ?_, fun h width => ?_, fun width hwidth h group hgroup => ?_⟩
  · obtain ⟨f, hf, hpath⟩ := mem_paths_groupByFile.1 (List.mem_map_of_mem hgroup)
    exact Markup.shows_path_iff_isPlain (hpath ▸ hordinary f hf)
  · exact fault_print width hordinary (fun f hf => (h f hf).2) fun f hf => (h f hf).1
  · exact render_ok_of_fault_print hwidth h hgroup

/-- A rule that is disabled without a reason in the file of a path. -/
def findingIn (path : Text) : Finding :=
  ⟨path, 1, 4, .error, "no-console".toList, true, none, .line⟩

theorem isCalm_findingIn {path : Text} (h : joiner ∉ path) : (findingIn path).IsCalm := by
  refine ⟨Text.isCalm_of_not_mem h, ?_, fun hmissing => Bool.noConfusion hmissing⟩
  have hrule : joiner ∉ Text.dropControls (findingIn path).rule := by
    have hname : joiner ∉ Text.dropControls "no-console".toList := by decide
    exact hname
  exact Text.isCalm_of_not_mem hrule

/-- A file in folders with brackets around a capital, dots and a number, which make no tags. -/
def catchAllPath : Text := "app/[Id]/[...all]/x[1].tsx".toList

theorem path_shown_iff_plain_catchAll :
    Markup.IsOrdinary catchAllPath ∧ Markup.IsPlain catchAllPath ∧
      (findingIn catchAllPath).IsCalm ∧ ShowsPath catchAllPath ∧
      ∀ width, (print width ⟨[findingIn catchAllPath], 1⟩).fault = none := by
  have hordinary : Markup.IsOrdinary catchAllPath :=
    Markup.isOrdinary_of_not_mem (by decide) (by decide)
  have hplain : Markup.IsPlain catchAllPath := by decide
  have hcalm : (findingIn catchAllPath).IsCalm := isCalm_findingIn (by decide)
  obtain ⟨hshown, hcomplete, -⟩ := path_shown_iff_plain ⟨[findingIn catchAllPath], 1⟩
    (List.forall_mem_singleton.2 hordinary)
  exact ⟨hordinary, hplain, hcalm, (hshown (catchAllPath, [findingIn catchAllPath]) (by decide)).2 hplain,
    hcomplete (List.forall_mem_singleton.2 ⟨hcalm, hplain⟩)⟩

/-- A file in a folder with brackets around small letters, which make a tag. -/
def bracketedPath : Text := "app/[id]/page.tsx".toList

/-- The panel of a file in a bracketed folder does not hold its path. -/
theorem path_not_shown_bracketed :
    Markup.IsOrdinary bracketedPath ∧
      (bracketedPath, [findingIn bracketedPath]) ∈ groupByFile [findingIn bracketedPath] ∧
      ¬ ShowsPath bracketedPath := by
  have hordinary : Markup.IsOrdinary bracketedPath :=
    Markup.isOrdinary_of_not_mem (by decide) (by decide)
  have hplain : ¬ Markup.IsPlain bracketedPath := by decide
  exact ⟨hordinary, by decide, fun h => hplain ((Markup.shows_path_iff_isPlain hordinary).1 h)⟩

end Report

end SuppressionAudit

import SuppressionAudit.Proofs.Console.Layout
import SuppressionAudit.Report.Table

/-!
# Tables and panels of calm text

Tables and panels are laid out for every width without a fault where their texts are calm: each step
brings calm lines to a width in calm lines.
-/

namespace SuppressionAudit

open Text (joiner joiner_not_mem_append)

/-! ### Tables -/

namespace Table

/-- Whether the lines of every cell are calm. -/
def AreCalm (cells : List (Nat × List Line)) : Prop := ∀ cell ∈ cells, ∀ line ∈ cell.2, line.IsCalm

theorem isCalm_blank : Line.IsCalm [[' ']] := Line.isCalm_singleton (by decide)

theorem isCalm_spaces (n : Nat) : Line.IsCalm [Text.spaces n] :=
  Line.isCalm_singleton (Text.joiner_not_mem_spaces n)

/-- Calm texts are fitted to a width, and then to another one with blanks around them. -/
theorem padded_ok (inside outside : Nat) {good : Text → Prop} {content : List StyledText}
    (h : ∀ t ∈ content, t.IsSettled good) :
    ∃ fitted lines, Line.mapAll (Line.fit inside) (content.map StyledText.pieces) = .ok fitted ∧
      Line.mapAll (fun line => Line.fit outside ([[' ']] ++ line ++ [[' ']])) fitted = .ok lines ∧
      ∀ line ∈ lines, line.IsCalm := by
  have hpieces : ∀ line ∈ content.map StyledText.pieces, Line.IsCalm line := by
    intro line hline
    obtain ⟨u, hu, rfl⟩ := List.mem_map.1 hline
    exact Line.isCalm_pieces (h u hu)
  obtain ⟨fitted, hfitted, hcalm⟩ :=
    Line.mapAll_ok (fun line hline => hline.fit_ok inside) hpieces
  obtain ⟨lines, hlines, hall⟩ := Line.mapAll_ok
    (fun line hline => ((isCalm_blank.append hline).append isCalm_blank).fit_ok outside) hcalm
  exact ⟨fitted, lines, hfitted, hlines, hall⟩

theorem settled_of_isCalm {t : StyledText} (h : Text.IsCalm t.text) :
    t.IsSettled fun _ => True := ⟨h, fun _ _ => trivial⟩

theorem cellLines_ok (column : Column) (width : Nat) {t : StyledText} (h : Text.IsCalm t.text) :
    ∃ lines, cellLines column width t = .ok lines ∧ ∀ line ∈ lines, line.IsCalm := by
  unfold cellLines
  split
  · exact ⟨[], rfl, by simp⟩
  · obtain ⟨content, hcontent, hsettled⟩ := (settled_of_isCalm h).wrap_ok .ellipsis (width - 2)
      (if column.alignRight then .right else .left)
    obtain ⟨fitted, lines, hfitted, hlines, hall⟩ := padded_ok (width - 2) width hsettled
    exact ⟨lines, by simp only [hcontent, hfitted, hlines], hall⟩

theorem rowCells_ok (columns : List (Column × Nat)) {row : List StyledText}
    (h : ∀ t ∈ row, Text.IsCalm t.text) : ∃ cells, rowCells columns row = .ok cells ∧ AreCalm cells := by
  fun_induction rowCells columns row with
  | case1 column width columns t row e he =>
    obtain ⟨lines, hlines, -⟩ := cellLines_ok column width (h t List.mem_cons_self)
    rw [hlines] at he
    cases he
  | case2 column width columns t row lines hlines ih =>
    obtain ⟨found, hfound, hcalm⟩ := cellLines_ok column width (h t List.mem_cons_self)
    obtain rfl := Except.ok.inj (hlines.symm.trans hfound)
    obtain ⟨cells, hcells, hall⟩ := ih fun u hu => h u (List.mem_cons_of_mem t hu)
    exact ⟨(width, lines) :: cells, by rw [hcells]; rfl, List.forall_mem_cons.2 ⟨hcalm, hall⟩⟩
  | case3 => exact ⟨[], rfl, by simp [AreCalm]⟩

theorem shapedCells_ok {cells : List (Nat × List Line)} (h : AreCalm cells) :
    ∃ shaped, shapedCells cells = .ok shaped ∧ AreCalm shaped := by
  induction cells with
  | nil => exact ⟨[], rfl, h⟩
  | cons cell cells ih =>
    obtain ⟨width, lines⟩ := cell
    obtain ⟨fitted, hfitted, hcalm⟩ := Line.mapAll_ok (fun line hline => hline.fit_ok width)
      (h (width, lines) List.mem_cons_self)
    obtain ⟨shaped, hshaped, hall⟩ := ih fun other hother => h other (List.mem_cons_of_mem _ hother)
    exact ⟨(width, fitted) :: shaped, by simp only [shapedCells, hfitted, hshaped]; rfl,
      List.forall_mem_cons.2 ⟨hcalm, hall⟩⟩

theorem isCalm_lineAt (width index : Nat) {lines : List Line} (h : ∀ line ∈ lines, line.IsCalm) :
    (lineAt width index lines).IsCalm := by
  unfold lineAt
  cases hline : lines[index]? with
  | none => exact isCalm_spaces width
  | some line => exact h line (List.mem_of_getElem? hline)

theorem isCalm_joinCells {lines : List Line} (h : ∀ line ∈ lines, line.IsCalm) :
    (joinCells lines).IsCalm := by
  fun_induction joinCells lines with
  | case1 => simp [Line.IsCalm]
  | case2 line => exact h line List.mem_cons_self
  | case3 line next rest ih =>
    have hrest := ih fun other hother => h other (List.mem_cons_of_mem line hother)
    exact ((h line List.mem_cons_self).append isCalm_blank).append hrest

theorem rowLines_ok (columns : List (Column × Nat)) {row : List StyledText}
    (h : ∀ t ∈ row, Text.IsCalm t.text) :
    ∃ lines, rowLines columns row = .ok lines ∧ ∀ line ∈ lines, line.IsCalm := by
  obtain ⟨cells, hcells, hcalm⟩ := rowCells_ok columns h
  obtain ⟨shaped, hshaped, hall⟩ := shapedCells_ok hcalm
  refine ⟨_, by simp only [rowLines, hcells, Except.bind, hshaped]; rfl, fun line hline => ?_⟩
  obtain ⟨index, -, rfl⟩ := List.mem_map.1 hline
  refine (isCalm_blank.append (isCalm_joinCells fun inner hinner => ?_)).append isCalm_blank
  obtain ⟨cell, hcell, rfl⟩ := List.mem_map.1 hinner
  exact isCalm_lineAt cell.1 index (hall cell hcell)

theorem rowsLines_ok (columns : List (Column × Nat)) {rows : List (List StyledText)}
    (h : ∀ row ∈ rows, ∀ t ∈ row, Text.IsCalm t.text) :
    ∃ lines, rowsLines columns rows = .ok lines ∧ ∀ line ∈ lines, line.IsCalm := by
  induction rows with
  | nil => exact ⟨[], rfl, by simp⟩
  | cons row rows ih =>
    obtain ⟨front, hfront, hcalm⟩ := rowLines_ok columns (h row List.mem_cons_self)
    obtain ⟨rest, hrest, hall⟩ := ih fun other hother => h other (List.mem_cons_of_mem row hother)
    refine ⟨front ++ rest, by simp only [rowsLines, hfront, hrest]; rfl, fun line hline => ?_⟩
    exact (List.mem_append.1 hline).elim (hcalm line) (hall line)

theorem joiner_not_mem_rule (n : Nat) : joiner ∉ Panel.rule n :=
  fun h => absurd (List.eq_of_mem_replicate h) (by decide)

/-- A table of calm texts is laid out for every width. -/
theorem lines_ok (consoleWidth : Nat) {columns : List Column} {rows : List (List StyledText)}
    (hcolumns : ∀ column ∈ columns, Text.IsCalm column.header)
    (hrows : ∀ row ∈ rows, ∀ t ∈ row, Text.IsCalm t.text) :
    ∃ laid, lines consoleWidth columns rows = .ok laid ∧ ∀ line ∈ laid, line.IsCalm := by
  have hheaders : ∀ t ∈ columns.map fun column => StyledText.plain column.header,
      Text.IsCalm t.text := by
    intro t ht
    obtain ⟨column, hcolumn, rfl⟩ := List.mem_map.1 ht
    exact hcolumns column hcolumn
  unfold lines
  simp only
  generalize columnWidths _ _ = widths
  generalize columns.zip widths = sized
  obtain ⟨header, hheader, hheaderCalm⟩ := rowLines_ok sized hheaders
  obtain ⟨content, hcontent, hcontentCalm⟩ := rowsLines_ok sized hrows
  rw [hheader, hcontent]
  have hrule : Line.IsCalm [[' '] ++ Panel.rule (Text.sumOf widths + (columns.length - 1)) ++ [' ']] :=
    Line.isCalm_singleton (joiner_not_mem_append
      (joiner_not_mem_append (by decide) (joiner_not_mem_rule _)) (by decide))
  refine ⟨_, rfl, ?_⟩
  simp only [List.forall_mem_append, List.forall_mem_singleton]
  exact ⟨⟨⟨⟨isCalm_spaces _, hheaderCalm⟩, hrule⟩, hcontentCalm⟩, isCalm_spaces _⟩

end Table

/-! ### Panels -/

namespace Panel

theorem inner_ok (width : Nat) {good : Text → Prop} {content : List StyledText}
    (h : ∀ t ∈ content, t.IsSettled good) :
    ∃ lines, inner width content = .ok lines ∧ ∀ line ∈ lines, line.IsCalm := by
  obtain ⟨fitted, lines, hfitted, hlines, hall⟩ := Table.padded_ok (width - 4) (width - 2) h
  exact ⟨lines, by simp only [inner, hfitted, hlines], hall⟩

theorem isCalm_plain (width : Nat) {lines : List Line} (h : ∀ line ∈ lines, line.IsCalm) :
    ∀ line ∈ plain width lines, line.IsCalm := by
  unfold plain
  simp only [List.forall_mem_append, List.forall_mem_singleton, List.forall_mem_map]
  exact ⟨⟨Table.isCalm_spaces width,
    fun line hline => (Table.isCalm_blank.append (h line hline)).append Table.isCalm_blank⟩,
    Table.isCalm_spaces width⟩

theorem joiner_not_mem_upperEdge (width : Nat) {title : Text} (h : joiner ∉ title) :
    joiner ∉ upperEdge width title := by
  have hlabel : joiner ∉ ([' '] ++ title ++ [' ']).take (width - 4) := fun hmem =>
    absurd (List.mem_of_mem_take hmem)
      (joiner_not_mem_append (joiner_not_mem_append (by decide) h) (by decide))
  have hrule := Table.joiner_not_mem_rule
  unfold upperEdge
  simp only
  split
  · exact joiner_not_mem_append (joiner_not_mem_append (joiner_not_mem_append
      (joiner_not_mem_append (by decide) (hrule _)) hlabel) (hrule _)) (by decide)
  · exact joiner_not_mem_append (joiner_not_mem_append (by decide) (hrule _)) (by decide)

theorem isCalm_boxed (width : Nat) {title : Text} (htitle : joiner ∉ title) {lines : List Line}
    (h : ∀ line ∈ lines, line.IsCalm) : ∀ line ∈ boxed width title lines, line.IsCalm := by
  have hside : Line.IsCalm [['│']] := Line.isCalm_singleton (by decide)
  have hlower : joiner ∉ ['╰'] ++ rule (width - 2) ++ ['╯'] := joiner_not_mem_append
    (joiner_not_mem_append (by decide) (Table.joiner_not_mem_rule _)) (by decide)
  unfold boxed
  simp only [List.forall_mem_append, List.forall_mem_singleton, List.forall_mem_map]
  exact ⟨⟨Line.isCalm_singleton (joiner_not_mem_upperEdge width htitle),
    fun line hline => (hside.append (h line hline)).append hside⟩, Line.isCalm_singleton hlower⟩

end Panel

end SuppressionAudit

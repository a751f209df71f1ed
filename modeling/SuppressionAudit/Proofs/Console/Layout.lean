import SuppressionAudit.Console.Layout
import SuppressionAudit.Proofs.Text.Calm
import SuppressionAudit.Proofs.Text.Trims

/-!
# Layout of calm text

A styled text without two joiners side by side is laid out for every width without a fault, and the
lines that come out are calm again and have no styles but those of the text.
-/

namespace SuppressionAudit

namespace StyledText

/-! ### Styles -/

/-- The styles of a text and of its spans. -/
def styles (t : StyledText) : List Text := t.style.toList ++ t.spans.filterMap Span.style

theorem mem_styles_iff {t : StyledText} {s : Text} :
    s ∈ t.styles ↔ t.style = some s ∨ ∃ span ∈ t.spans, span.style = some s := by
  simp [styles]

theorem styles_subset {t u : StyledText} (hstyle : u.style = t.style)
    (hspans : ∀ span ∈ u.spans, ∃ other ∈ t.spans, span.style = other.style) : u.styles ⊆ t.styles := by
  intro s hs
  rcases mem_styles_iff.1 hs with h | ⟨span, hspan, h⟩
  · exact mem_styles_iff.2 (Or.inl (hstyle ▸ h))
  · obtain ⟨other, hother, he⟩ := hspans span hspan
    exact mem_styles_iff.2 (Or.inr ⟨other, hother, he ▸ h⟩)

theorem styles_slice (t : StyledText) (first last : Nat) : (t.slice first last).styles ⊆ t.styles := by
  refine styles_subset rfl fun span hspan => ?_
  obtain ⟨other, hother, hwithin⟩ := List.mem_filterMap.1 hspan
  unfold Span.within? at hwithin
  simp only at hwithin
  split at hwithin
  · exact ⟨other, hother, by rw [← Option.some.inj hwithin]⟩
  · cases hwithin

theorem styles_withText (t : StyledText) (s : Text) : (t.withText s).styles ⊆ t.styles := by
  unfold withText
  split
  · refine styles_subset rfl fun span hspan => ?_
    obtain ⟨other, hother, hcropped⟩ := List.mem_filterMap.1 hspan
    unfold Span.cropped? at hcropped
    split at hcropped
    · exact ⟨other, hother, by rw [← Option.some.inj hcropped]⟩
    · cases hcropped
  · exact List.Subset.refl _

theorem styles_extend (t : StyledText) (count : Nat) : (t.extend count).styles ⊆ t.styles := by
  refine styles_subset rfl fun span hspan => ?_
  obtain ⟨other, hother, he⟩ := List.mem_map.1 hspan
  refine ⟨other, hother, ?_⟩
  rw [← he]
  split <;> rfl

theorem styles_shifted (t : StyledText) (s : Text) (count : Nat) :
    (StyledText.mk s (t.spans.map (Span.shifted count)) t.style).styles ⊆ t.styles := by
  refine styles_subset rfl fun span hspan => ?_
  obtain ⟨other, hother, rfl⟩ := List.mem_map.1 hspan
  exact ⟨other, hother, rfl⟩

theorem styles_allSpans {t : StyledText} {s : Text} {span : Span} (hspan : span ∈ t.allSpans)
    (hs : span.style = some s) : s ∈ t.styles := by
  unfold allSpans at hspan
  split at hspan
  · rcases List.mem_cons.1 hspan with rfl | hspan
    · exact mem_styles_iff.2 (Or.inl hs)
    · exact mem_styles_iff.2 (Or.inr ⟨span, hspan, hs⟩)
  · exact mem_styles_iff.2 (Or.inr ⟨span, hspan, hs⟩)

theorem mem_styles_join {ts : List StyledText} {s : Text} (h : s ∈ (join ts).styles) :
    ∃ t ∈ ts, s ∈ t.styles := by
  induction ts with
  | nil => simp [join, plain, styles] at h
  | cons t ts ih =>
    have hrest : s ∈ (join ts).styles → ∃ u ∈ t :: ts, s ∈ u.styles := fun hs => by
      obtain ⟨u, hu, hs⟩ := ih hs
      exact ⟨u, List.mem_cons_of_mem t hu, hs⟩
    rcases mem_styles_iff.1 h with hs | ⟨span, hspan, hs⟩
    · exact hrest (mem_styles_iff.2 (Or.inl hs))
    · rcases List.mem_append.1 hspan with hspan | hspan
      · exact ⟨t, List.mem_cons_self, styles_allSpans hspan hs⟩
      · obtain ⟨other, hother, rfl⟩ := List.mem_map.1 hspan
        exact hrest (mem_styles_iff.2 (Or.inr ⟨other, hother, hs⟩))

theorem text_join (ts : List StyledText) : (join ts).text = (ts.map text).flatten := by
  induction ts with
  | nil => rfl
  | cons t ts ih =>
    rw [join, List.map_cons, List.flatten_cons, ← ih]

/-! ### Cutting -/

theorem slice_isInfix (t : StyledText) (first last : Nat) : (t.slice first last).text <:+: t.text :=
  (List.take_prefix _ _).isInfix.trans (List.drop_suffix _ _).isInfix

theorem mem_slices {t u : StyledText} {offsets : List Nat} (h : u ∈ t.slices offsets) :
    ∃ first last, u = t.slice first last := by
  fun_induction slices t offsets with
  | case1 first last rest ih =>
    rcases List.mem_cons.1 h with rfl | h
    · exact ⟨first, last, rfl⟩
    · exact ih h
  | case2 => simp at h

/-- Neighbouring slices make up the text between the first offset and the last one. -/
theorem flatten_slices (t : StyledText) {first : Nat} {offsets : List Nat}
    (h : (first :: offsets).Pairwise (· ≤ ·)) :
    ((t.slices (first :: offsets)).map text).flatten
      = (t.text.drop first).take ((first :: offsets).getLast (by simp) - first) := by
  induction offsets generalizing first with
  | nil => simp [slices]
  | cons second offsets ih =>
    have hrest := ih (List.pairwise_cons.1 h).2
    have hfirst : first ≤ second := (List.pairwise_cons.1 h).1 second (by simp)
    have hlast : second ≤ (second :: offsets).getLast (by simp) := by
      rcases List.mem_cons.1 (List.getLast_mem (List.cons_ne_nil second offsets)) with e | hmem
      · exact e.ge
      · exact (List.pairwise_cons.1 (List.pairwise_cons.1 h).2).1 _ hmem
    have hdrop : t.text.drop second = (t.text.drop first).drop (second - first) := by
      rw [List.drop_drop]
      congr 1
      omega
    have htotal : (first :: second :: offsets).getLast (by simp) - first
        = (second - first) + ((second :: offsets).getLast (by simp) - second) := by
      rw [List.getLast_cons (List.cons_ne_nil second offsets)]
      omega
    rw [slices, List.map_cons, List.flatten_cons, hrest, slice, htotal, List.take_add, hdrop]

theorem offsetsOf_bounds {c : Char} {start : Nat} {s : Text} {offset : Nat}
    (h : offset ∈ offsetsOf c start s) : start ≤ offset ∧ offset < start + s.length := by
  induction s generalizing start with
  | nil => simp [offsetsOf] at h
  | cons d s ih =>
    have hrest : offset ∈ offsetsOf c (start + 1) s → start ≤ offset ∧ offset < start + (d :: s).length := by
      intro hmem
      have := ih hmem
      rw [List.length_cons]
      omega
    rw [offsetsOf] at h
    split at h
    · rcases List.mem_cons.1 h with rfl | h
      · rw [List.length_cons]
        omega
      · exact hrest h
    · exact hrest h

theorem pairwise_offsetsOf (c : Char) (start : Nat) (s : Text) :
    (offsetsOf c start s).Pairwise (· < ·) := by
  induction s generalizing start with
  | nil => exact List.Pairwise.nil
  | cons d s ih =>
    rw [offsetsOf]
    split
    · refine List.pairwise_cons.2 ⟨fun offset hoffset => ?_, ih (start + 1)⟩
      have := offsetsOf_bounds hoffset
      omega
    · exact ih (start + 1)

/-- A text that is cut behind each of some characters is made up of its parts. -/
theorem flatten_cutAt_offsetsOf (t : StyledText) (c : Char) :
    ((t.cutAt ((offsetsOf c 0 t.text).map (· + 1))).map text).flatten = t.text := by
  unfold cutAt
  split
  · simp
  · have hbounds : ∀ offset ∈ (offsetsOf c 0 t.text).map (· + 1), offset ≤ t.text.length := by
      intro offset hoffset
      obtain ⟨before, hbefore, rfl⟩ := List.mem_map.1 hoffset
      have := offsetsOf_bounds hbefore
      omega
    have hsorted : (0 :: ((offsetsOf c 0 t.text).map (· + 1) ++ [t.text.length])).Pairwise (· ≤ ·) := by
      refine List.pairwise_cons.2 ⟨fun _ _ => Nat.zero_le _, ?_⟩
      refine List.pairwise_append.2 ⟨?_, List.pairwise_singleton _ _, ?_⟩
      · exact ((pairwise_offsetsOf c 0 t.text).map _ fun _ _ h => by omega)
      · intro offset hoffset last hlast
        rw [List.mem_singleton.1 hlast]
        exact hbounds offset hoffset
    rw [List.cons_append, flatten_slices t hsorted]
    simp

/-! ### Settled texts -/

/-- Whether a text is calm and all its styles are good. -/
structure IsSettled (good : Text → Prop) (t : StyledText) : Prop where
  calm : Text.IsCalm t.text
  styles : ∀ s ∈ t.styles, good s

variable {good : Text → Prop}

theorem IsSettled.slice {t : StyledText} (h : t.IsSettled good) (first last : Nat) :
    (t.slice first last).IsSettled good :=
  ⟨h.calm.of_isInfix (slice_isInfix t first last), fun s hs => h.styles s (styles_slice t first last hs)⟩

theorem IsSettled.withText {t : StyledText} (h : t.IsSettled good) {s : Text} (hs : Text.IsCalm s) :
    (t.withText s).IsSettled good := by
  refine ⟨?_, fun style hstyle => h.styles style (styles_withText t s hstyle)⟩
  unfold StyledText.withText
  split <;> exact hs

theorem IsSettled.cutAt {t : StyledText} (h : t.IsSettled good) {offsets : List Nat} :
    ∀ u ∈ t.cutAt offsets, u.IsSettled good := by
  intro u hu
  unfold StyledText.cutAt at hu
  split at hu
  · rw [List.mem_singleton.1 hu]
    exact h
  · obtain ⟨first, last, rfl⟩ := mem_slices hu
    exact h.slice first last

theorem IsSettled.lines {t : StyledText} (h : t.IsSettled good) : ∀ u ∈ t.lines, u.IsSettled good := by
  intro u hu
  unfold StyledText.lines at hu
  split at hu
  · rw [List.mem_singleton.1 hu]
    exact h
  · obtain ⟨ends, -, rfl⟩ := List.mem_map.1 hu
    exact h.slice ends.1 ends.2

/-! ### Tabs -/

theorem text_extend_filled (part : StyledText) (gap : Nat) :
    (({ part with text := part.text.dropLast ++ [' '] } : StyledText).extend gap).text
      = part.text.dropLast ++ Text.spaces (gap + 1) := by
  rw [extend, Text.spaces, List.append_assoc, Text.spaces, List.replicate_succ]
  rfl

/-- Blanks in the place of a tab keep joiners apart. -/
theorem isCalm_fillTabs {position : Nat} {parts : List StyledText}
    (h : Text.IsCalm (parts.map text).flatten) :
    Text.IsCalm ((fillTabs position parts).map text).flatten ∧
      (((fillTabs position parts).map text).flatten.head? = some Text.joiner →
        (parts.map text).flatten.head? = some Text.joiner) := by
  induction parts generalizing position with
  | nil => exact ⟨Text.isCalm_nil, id⟩
  | cons part parts ih =>
    rw [List.map_cons, List.flatten_cons] at h ⊢
    have hpart : Text.IsCalm part.text := h.of_isInfix (List.prefix_append _ _).isInfix
    have hrest := fun position => @ih position (h.of_isInfix (List.suffix_append _ _).isInfix)
    rw [fillTabs]
    split
    · simp only [List.map_cons, List.flatten_cons, text_extend_filled, List.append_assoc]
      generalize (8 - (position + Text.width (part.text.dropLast ++ [' '])) % 8) % 8 = gap
      obtain ⟨hcalm, -⟩ := hrest (position + Text.width (part.text.dropLast ++ [' ']) + gap)
      have hblanks := Text.IsCalm.append_left_of_not_mem (Text.joiner_not_mem_spaces (gap + 1)) hcalm
      have hfront := hpart.of_isInfix (List.dropLast_prefix part.text).isInfix
      refine ⟨hfront.append hblanks fun e => ?_, fun e => ?_⟩
      · exact absurd e (by simp [Text.spaces, List.replicate_succ, Text.joiner])
      · cases hdrop : part.text.dropLast with
        | nil =>
          rw [hdrop] at e
          exact absurd e (by simp [Text.spaces, List.replicate_succ, Text.joiner])
        | cons c front =>
          obtain ⟨tail, htail⟩ := List.dropLast_prefix part.text
          rw [← htail, hdrop]
          rw [hdrop] at e
          exact e
    · obtain ⟨hcalm, hhead⟩ := hrest (position + Text.width part.text)
      generalize position + Text.width part.text = next at hcalm hhead ⊢
      rw [List.map_cons, List.flatten_cons]
      refine ⟨hpart.append hcalm fun e => h.getLast?_ne (hhead e), fun e => ?_⟩
      cases htext : part.text with
      | nil =>
        rw [htext] at e
        exact hhead e
      | cons c front =>
        rw [htext] at e
        exact e

theorem mem_fillTabs {position : Nat} {parts : List StyledText} {u : StyledText}
    (h : u ∈ fillTabs position parts) : ∃ part ∈ parts, u.styles ⊆ part.styles := by
  induction parts generalizing position with
  | nil => simp [fillTabs] at h
  | cons part parts ih =>
    have hrest : ∀ position, u ∈ fillTabs position parts →
        ∃ other ∈ part :: parts, u.styles ⊆ other.styles := by
      intro position hmem
      obtain ⟨other, hother, hsub⟩ := ih hmem
      exact ⟨other, List.mem_cons_of_mem part hother, hsub⟩
    rw [fillTabs] at h
    split at h
    · rcases List.mem_cons.1 h with rfl | h
      · exact ⟨part, List.mem_cons_self, styles_extend _ _⟩
      · exact hrest _ h
    · rcases List.mem_cons.1 h with rfl | h
      · exact ⟨u, List.mem_cons_self, List.Subset.refl _⟩
      · exact hrest _ h

theorem flatten_filter_nonempty (parts : List StyledText) :
    ((parts.filter fun part => !part.text.isEmpty).map text).flatten = (parts.map text).flatten := by
  induction parts with
  | nil => rfl
  | cons part parts ih =>
    rw [List.filter_cons]
    cases htext : part.text <;> simp [htext, ih]

theorem IsSettled.expandTabs {t : StyledText} (h : t.IsSettled good) : t.expandTabs.IsSettled good := by
  unfold StyledText.expandTabs
  split
  · exact h
  · refine ⟨?_, fun s hs => ?_⟩
    · change Text.IsCalm (join _).text
      rw [text_join]
      refine (isCalm_fillTabs ?_).1
      rw [flatten_filter_nonempty, flatten_cutAt_offsetsOf]
      exact h.calm
    · rcases mem_styles_iff.1 hs with hstyle | ⟨span, hspan, hstyle⟩
      · exact h.styles s (mem_styles_iff.2 (Or.inl hstyle))
      · obtain ⟨u, hu, hs⟩ := mem_styles_join (mem_styles_iff.2 (Or.inr ⟨span, hspan, hstyle⟩))
        obtain ⟨part, hpart, hsub⟩ := mem_fillTabs hu
        exact (h.cutAt part (List.mem_of_mem_filter hpart)).styles s (hsub hs)

/-! ### Lines of a width -/

theorem IsSettled.dropExcess {t : StyledText} (h : t.IsSettled good) (limit : Nat) :
    (t.dropExcess limit).IsSettled good :=
  h.withText (h.calm.of_isInfix (List.take_prefix _ _).isInfix)

theorem IsSettled.truncate_ok {t : StyledText} (h : t.IsSettled good) (overflow : Text.Overflow)
    (limit : Nat) : ∃ u, t.truncate overflow limit = .ok u ∧ u.IsSettled good := by
  unfold truncate
  split
  · exact ⟨t, rfl, h⟩
  · cases overflow with
    | fold =>
      obtain ⟨cut, hcut, hcalm⟩ := h.calm.fitCells_ok limit
      exact ⟨t.withText cut, by simp only [hcut]; rfl, h.withText hcalm⟩
    | ellipsis =>
      obtain ⟨cut, hcut, hcalm⟩ := h.calm.fitCells_ok (limit - 1)
      exact ⟨t.withText (cut ++ ['…']), by simp only [hcut]; rfl,
        h.withText (hcalm.append_of_not_mem (by decide))⟩

theorem IsSettled.align_ok {t : StyledText} (h : t.IsSettled good) (overflow : Text.Overflow)
    (limit : Nat) (alignment : Alignment) :
    ∃ u, t.align overflow limit alignment = .ok u ∧ u.IsSettled good := by
  cases alignment with
  | none => exact ⟨t, rfl, h⟩
  | left =>
    rw [align]
    split
    · exact ⟨_, rfl, h.calm.padRight limit, h.styles⟩
    · exact h.truncate_ok overflow limit
  | right =>
    have htrimmed := h.withText (h.calm.of_isInfix (Text.trimEnd_isPrefix t.text).isInfix)
    obtain ⟨u, hu, hsettled⟩ := htrimmed.truncate_ok overflow limit
    rw [align, hu]
    exact ⟨_, rfl, Text.IsCalm.append_left_of_not_mem (Text.joiner_not_mem_spaces _) hsettled.calm,
      fun s hs => hsettled.styles s (styles_shifted u _ _ hs)⟩

theorem mapAll_ok {f : StyledText → Except Text.CutFault StyledText} {P : StyledText → Prop}
    (hf : ∀ t, P t → ∃ u, f t = .ok u ∧ P u) {ts : List StyledText} (h : ∀ t ∈ ts, P t) :
    ∃ us, mapAll f ts = .ok us ∧ ∀ u ∈ us, P u := by
  induction ts with
  | nil => exact ⟨[], rfl, by simp⟩
  | cons t ts ih =>
    obtain ⟨u, hu, hPu⟩ := hf t (h t List.mem_cons_self)
    obtain ⟨us, hus, hPus⟩ := ih fun v hv => h v (List.mem_cons_of_mem t hv)
    exact ⟨u :: us, by simp only [mapAll, hu, hus]; rfl, List.forall_mem_cons.2 ⟨hPu, hPus⟩⟩

theorem IsSettled.wrapLine_ok {t : StyledText} (h : t.IsSettled good) (overflow : Text.Overflow)
    (limit : Nat) (alignment : Alignment) :
    ∃ us, t.wrapLine overflow limit alignment = .ok us ∧ ∀ u ∈ us, u.IsSettled good := by
  have hbroken : ∀ u ∈ (t.expandTabs.cutAt (Text.breakOffsets overflow limit t.expandTabs.text)).map
      fun u => u.dropExcess limit, u.IsSettled good := by
    intro u hu
    obtain ⟨part, hpart, rfl⟩ := List.mem_map.1 hu
    exact (h.expandTabs.cutAt part hpart).dropExcess limit
  obtain ⟨aligned, haligned, hgood⟩ :=
    mapAll_ok (fun u hu => IsSettled.align_ok hu overflow limit alignment) hbroken
  obtain ⟨us, hus, hall⟩ := mapAll_ok (fun u hu => IsSettled.truncate_ok hu overflow limit) hgood
  exact ⟨us, by simp only [wrapLine, haligned, hus], hall⟩

theorem wrapLines_ok {ts : List StyledText} (h : ∀ t ∈ ts, t.IsSettled good)
    (overflow : Text.Overflow) (limit : Nat) (alignment : Alignment) :
    ∃ us, wrapLines overflow limit alignment ts = .ok us ∧ ∀ u ∈ us, u.IsSettled good := by
  induction ts with
  | nil => exact ⟨[], rfl, by simp⟩
  | cons t ts ih =>
    obtain ⟨front, hfront, hgood⟩ := (h t List.mem_cons_self).wrapLine_ok overflow limit alignment
    obtain ⟨rest, hrest, hall⟩ := ih fun v hv => h v (List.mem_cons_of_mem t hv)
    refine ⟨front ++ rest, by simp only [wrapLines, hfront, hrest]; rfl, fun u hu => ?_⟩
    exact (List.mem_append.1 hu).elim (hgood u) (hall u)

/-- A settled text is laid out for every width in settled lines. -/
theorem IsSettled.wrap_ok {t : StyledText} (h : t.IsSettled good) (overflow : Text.Overflow)
    (limit : Nat) (alignment : Alignment) :
    ∃ us, t.wrap overflow limit alignment = .ok us ∧ ∀ u ∈ us, u.IsSettled good :=
  wrapLines_ok h.lines overflow limit alignment

end StyledText

/-! ### Lines in pieces -/

namespace Line

/-- Whether every piece of a line is calm. -/
def IsCalm (line : Line) : Prop := ∀ piece ∈ line, Text.IsCalm piece

theorem isCalm_pieces {good : Text → Prop} {t : StyledText} (h : t.IsSettled good) :
    IsCalm t.pieces := by
  intro piece hpiece
  refine h.calm.of_isInfix ?_
  have hinfix := List.infix_of_mem_flatten hpiece
  rwa [StyledText.flatten_pieces] at hinfix

theorem IsCalm.append {line rest : Line} (h : IsCalm line) (hrest : IsCalm rest) :
    IsCalm (line ++ rest) := fun piece hpiece => (List.mem_append.1 hpiece).elim (h piece) (hrest piece)

theorem isCalm_singleton {piece : Text} (h : Text.joiner ∉ piece) : IsCalm [piece] := by
  intro other hother
  rw [List.mem_singleton.1 hother]
  exact Text.isCalm_of_not_mem h

theorem IsCalm.takeCells_ok {line : Line} (h : IsCalm line) (room : Nat) :
    ∃ cut, takeCells room line = .ok cut ∧ IsCalm cut := by
  induction line generalizing room with
  | nil => exact ⟨[], rfl, h⟩
  | cons piece line ih =>
    have hpiece := h piece List.mem_cons_self
    rw [takeCells]
    split
    · obtain ⟨cut, hcut, hcalm⟩ := ih (fun p hp => h p (List.mem_cons_of_mem piece hp))
        (room - Text.width piece)
      exact ⟨piece :: cut, by rw [hcut]; rfl, List.forall_mem_cons.2 ⟨hpiece, hcalm⟩⟩
    · obtain ⟨cut, hcut, hcalm⟩ := hpiece.fitCells_ok room
      refine ⟨[cut], by rw [hcut]; rfl, ?_⟩
      intro other hother
      rw [List.mem_singleton.1 hother]
      exact hcalm

theorem IsCalm.crop_ok {line : Line} (h : IsCalm line) (total : Nat) :
    ∃ cut, crop total line = .ok cut ∧ IsCalm cut := by
  unfold crop
  split
  · exact h.takeCells_ok total
  · exact ⟨line, rfl, h⟩

theorem IsCalm.fit_ok {line : Line} (h : IsCalm line) (total : Nat) :
    ∃ cut, fit total line = .ok cut ∧ IsCalm cut := by
  unfold fit
  split
  · exact h.takeCells_ok total
  · split
    · exact ⟨_, rfl, h.append (isCalm_singleton (Text.joiner_not_mem_spaces _))⟩
    · exact ⟨line, rfl, h⟩

theorem mapAll_ok {f : Line → Except Text.CutFault Line} (hf : ∀ line, IsCalm line →
      ∃ cut, f line = .ok cut ∧ IsCalm cut) {lines : List Line} (h : ∀ line ∈ lines, IsCalm line) :
    ∃ cuts, mapAll f lines = .ok cuts ∧ ∀ line ∈ cuts, IsCalm line := by
  induction lines with
  | nil => exact ⟨[], rfl, by simp⟩
  | cons line lines ih =>
    obtain ⟨cut, hcut, hcalm⟩ := hf line (h line List.mem_cons_self)
    obtain ⟨cuts, hcuts, hall⟩ := ih fun other hother => h other (List.mem_cons_of_mem line hother)
    exact ⟨cut :: cuts, by simp only [mapAll, hcut, hcuts]; rfl, List.forall_mem_cons.2 ⟨hcalm, hall⟩⟩

end Line

end SuppressionAudit

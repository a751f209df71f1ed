import SuppressionAudit.Directive.Marker
import SuppressionAudit.Proofs.Text.Cuts

/-!
# How a marker reads

A text reads as a marker when it can be written as an opening, blanks, the keyword, a qualifier and a
run of separating characters, with the rest of the text behind. The run is as long as it can be. The
marker functions find this reading whenever there is one: none of their greedy steps has to be taken
back, because no keyword starts with a blank and no qualifier with a separating character.
-/

namespace SuppressionAudit

/-! ### Runs -/

structure Run (inClass : Char → Bool) (front rest : Text) : Prop where
  inside : ∀ c ∈ front, inClass c = true
  stops : ∀ c ∈ rest.head?, inClass c = false

namespace Run

variable {inClass : Char → Bool} {front rest : Text}

theorem dropWhile_eq (h : Run inClass front rest) : (front ++ rest).dropWhile inClass = rest := by
  rw [List.dropWhile_append_of_pos h.inside]
  cases rest with
  | nil => rfl
  | cons c rest =>
    have hc : inClass c = false := h.stops c rfl
    simp [hc]

theorem takeWhile_eq (h : Run inClass front rest) : (front ++ rest).takeWhile inClass = front := by
  rw [List.takeWhile_append_of_pos h.inside]
  cases rest with
  | nil => simp
  | cons c rest =>
    have hc : inClass c = false := h.stops c rfl
    simp [hc]

theorem of_takeWhile (inClass : Char → Bool) (s : Text) :
    Run inClass (s.takeWhile inClass) (s.dropWhile inClass) := by
  refine ⟨fun c hc => List.all_eq_true.1 List.all_takeWhile c hc, ?_⟩
  intro c hc
  have hnot := List.head?_dropWhile_not inClass s
  rw [Option.mem_def.1 hc] at hnot
  simpa using hnot

end Run

/-! ### Readings -/

/-- `s` reads as an opening, blanks, the keyword, a qualifier and a run of at least one separating
character, followed by `rest`. -/
def ReadsMarker (opening : Text) (qualifiers : List Text) (separates : Char → Bool) (s rest : Text) :
    Prop :=
  ∃ blanks qualifier gap, s = opening ++ blanks ++ "eslint-disable".toList ++ qualifier ++ gap ++ rest ∧
    (∀ c ∈ blanks, isBlank c = true) ∧ qualifier ∈ qualifiers ∧ gap ≠ [] ∧ Run separates gap rest

def ReadsBlock (s rest : Text) : Prop := ReadsMarker ['/', '*'] [[]] isBlank s rest

def ReadsQualified (s rest : Text) : Prop :=
  ReadsMarker ['/', '*'] ["-line".toList, "-next-line".toList] isBlank s rest

def ReadsLineComment (s rest : Text) : Prop :=
  ReadsMarker ['/', '/'] [[], "-line".toList, "-next-line".toList] (fun c => c == ' ' || c == '\t')
    s rest

namespace ReadsMarker

variable {opening : Text} {qualifiers : List Text} {separates : Char → Bool} {s rest : Text}

theorem suffix (h : ReadsMarker opening qualifiers separates s rest) : rest <:+ s := by
  obtain ⟨blanks, qualifier, gap, hs, -⟩ := h
  exact ⟨_, hs.symm⟩

theorem ne_nil (h : ReadsMarker opening qualifiers separates s rest) : s ≠ [] := by
  obtain ⟨blanks, qualifier, gap, hs, -, -, hgap, -⟩ := h
  rintro rfl
  simp only [List.nil_eq, List.append_eq_nil_iff] at hs
  exact hgap hs.1.2

theorem opens (h : ReadsMarker opening qualifiers separates s rest) : opening <+: s := by
  obtain ⟨blanks, qualifier, gap, hs, -⟩ := h
  exact ⟨blanks ++ ("eslint-disable".toList ++ (qualifier ++ (gap ++ rest))), by
    simp only [hs, List.append_assoc]⟩

end ReadsMarker

/-! ### The marker functions find the readings -/

namespace Marker

theorem afterKeyword?_eq_some_iff {opening s rest : Text} :
    afterKeyword? opening s = some rest ↔
      ∃ blanks, s = opening ++ blanks ++ keyword ++ rest ∧ ∀ c ∈ blanks, isBlank c = true := by
  constructor
  · intro h
    unfold afterKeyword? at h
    split at h
    · next t ht =>
      have hs := Text.dropLiteral?_eq_some ht
      have hk := Text.dropLiteral?_eq_some h
      refine ⟨t.takeWhile isBlank, ?_, (Run.of_takeWhile isBlank t).inside⟩
      rw [hs, List.append_assoc, List.append_assoc, ← hk, Text.trimStart,
        List.takeWhile_append_dropWhile]
    · simp at h
  · rintro ⟨blanks, rfl, hblanks⟩
    -- the keyword does not start with a blank, so the blanks end where they should
    have hrun : Run isBlank blanks (keyword ++ rest) := ⟨hblanks, by rintro c ⟨⟩; rfl⟩
    have hopen : Text.dropLiteral? opening (opening ++ blanks ++ keyword ++ rest)
        = some (blanks ++ (keyword ++ rest)) := by
      rw [List.append_assoc, List.append_assoc, Text.dropLiteral?_append]
    simp only [afterKeyword?, hopen, Text.trimStart, hrun.dropWhile_eq, Text.dropLiteral?_append]

theorem afterRun?_eq_some_iff {inClass : Char → Bool} {s rest : Text} :
    afterRun? inClass s = some rest ↔ ∃ gap, s = gap ++ rest ∧ gap ≠ [] ∧ Run inClass gap rest := by
  constructor
  · intro h
    cases s with
    | nil => simp [afterRun?] at h
    | cons c s =>
      by_cases hc : inClass c = true
      · simp only [afterRun?, hc, if_true, Option.some.injEq] at h
        have hrun := Run.of_takeWhile inClass s
        refine ⟨c :: s.takeWhile inClass, ?_, by simp, ?_, ?_⟩
        · rw [← h, List.cons_append, List.takeWhile_append_dropWhile]
        · intro d hd
          rcases List.mem_cons.1 hd with rfl | hd
          · exact hc
          · exact hrun.inside d hd
        · rw [← h]
          exact hrun.stops
      · simp [afterRun?, hc] at h
  · rintro ⟨gap, rfl, hne, hrun⟩
    cases gap with
    | nil => exact absurd rfl hne
    | cons c gap =>
      have hc : inClass c = true := hrun.inside c List.mem_cons_self
      have htail : Run inClass gap rest :=
        ⟨fun d hd => hrun.inside d (List.mem_cons_of_mem _ hd), hrun.stops⟩
      simp [afterRun?, hc, htail.dropWhile_eq]

theorem afterQualifier?_eq_some_iff {s rest : Text} :
    afterQualifier? s = some rest ↔ s = sameLine ++ rest ∨ s = nextLine ++ rest := by
  constructor
  · intro h
    rcases Option.or_eq_some_iff.1 h with h | ⟨-, h⟩
    · exact .inr (Text.dropLiteral?_eq_some h)
    · exact .inl (Text.dropLiteral?_eq_some h)
  · rintro (rfl | rfl)
    · have hnext : Text.dropLiteral? nextLine (sameLine ++ rest) = none := rfl
      simp [afterQualifier?, hnext, Text.dropLiteral?_append]
    · simp [afterQualifier?, Text.dropLiteral?_append]

/-- A text that a separating run follows at once has no qualifier. -/
theorem afterQualifier?_of_run {inClass : Char → Bool} (hdash : inClass '-' = false) {s rest : Text}
    (h : afterRun? inClass s = some rest) : afterQualifier? s = none := by
  cases s with
  | nil => rfl
  | cons c s =>
    have hc : '-' ≠ c := by
      rintro rfl
      simp [afterRun?, hdash] at h
    have hnext : nextLine = '-' :: "next-line".toList := rfl
    have hsame : sameLine = '-' :: "line".toList := rfl
    simp only [afterQualifier?, hnext, hsame, Text.dropLiteral?, hc, if_false, Option.or_none]

/-- Where a qualifier may be missing, it is missing or one of the two. -/
theorem afterRun?_getD_iff {inClass : Char → Bool} (hdash : inClass '-' = false) {s rest : Text} :
    afterRun? inClass ((afterQualifier? s).getD s) = some rest ↔
      ∃ qualifier ∈ [[], sameLine, nextLine], ∃ u, s = qualifier ++ u ∧ afterRun? inClass u = some rest := by
  constructor
  · intro h
    cases hq : afterQualifier? s with
    | none =>
      rw [hq] at h
      exact ⟨[], by simp, s, rfl, h⟩
    | some u =>
      rw [hq] at h
      rcases afterQualifier?_eq_some_iff.1 hq with hs | hs
      · exact ⟨sameLine, by simp, u, hs, h⟩
      · exact ⟨nextLine, by simp, u, hs, h⟩
  · rintro ⟨qualifier, hmem, u, rfl, hu⟩
    simp only [List.mem_cons, List.not_mem_nil, or_false] at hmem
    rcases hmem with rfl | rfl | rfl
    · rw [List.nil_append, afterQualifier?_of_run hdash hu]
      exact hu
    · rw [afterQualifier?_eq_some_iff.2 (.inl rfl)]
      exact hu
    · rw [afterQualifier?_eq_some_iff.2 (.inr rfl)]
      exact hu

/-- A reading is the keyword, one of the qualifiers and a run of separating characters, each found behind
the one before it. -/
theorem readsMarker_iff {opening : Text} {qualifiers : List Text} {separates : Char → Bool} {s rest : Text} :
    ReadsMarker opening qualifiers separates s rest ↔
      ∃ t, afterKeyword? opening s = some t ∧
        ∃ qualifier ∈ qualifiers, ∃ u, t = qualifier ++ u ∧ afterRun? separates u = some rest := by
  constructor
  · rintro ⟨blanks, qualifier, gap, rfl, hblanks, hq, hne, hrun⟩
    refine ⟨qualifier ++ (gap ++ rest), ?_, qualifier, hq, gap ++ rest, rfl, ?_⟩
    · refine afterKeyword?_eq_some_iff.2 ⟨blanks, ?_, hblanks⟩
      simp only [List.append_assoc]
      rfl
    · exact afterRun?_eq_some_iff.2 ⟨gap, rfl, hne, hrun⟩
  · rintro ⟨t, ht, qualifier, hq, u, rfl, hu⟩
    obtain ⟨blanks, hs, hblanks⟩ := afterKeyword?_eq_some_iff.1 ht
    obtain ⟨gap, rfl, hne, hrun⟩ := afterRun?_eq_some_iff.1 hu
    refine ⟨blanks, qualifier, gap, ?_, hblanks, hq, hne, hrun⟩
    simp only [hs, List.append_assoc]
    rfl

theorem block?_eq_some_iff {s rest : Text} : block? s = some rest ↔ ReadsBlock s rest := by
  show block? s = some rest ↔ ReadsMarker blockOpening [[]] isBlank s rest
  rw [readsMarker_iff, block?]
  cases afterKeyword? blockOpening s with
  | none => simp
  | some t => simp

theorem qualified?_eq_some_iff {s rest : Text} : qualified? s = some rest ↔ ReadsQualified s rest := by
  show qualified? s = some rest ↔ ReadsMarker blockOpening [sameLine, nextLine] isBlank s rest
  rw [readsMarker_iff, qualified?]
  cases afterKeyword? blockOpening s with
  | none => simp
  | some t =>
    simp only [Option.some.injEq, exists_eq_left', List.mem_cons, List.not_mem_nil, or_false]
    constructor
    · intro h
      split at h
      · next u hu =>
        rcases afterQualifier?_eq_some_iff.1 hu with hq | hq
        · exact ⟨sameLine, .inl rfl, u, hq, h⟩
        · exact ⟨nextLine, .inr rfl, u, hq, h⟩
      · simp at h
    · rintro ⟨qualifier, rfl | rfl, u, hq, h⟩
      · rw [afterQualifier?_eq_some_iff.2 (.inl hq)]
        exact h
      · rw [afterQualifier?_eq_some_iff.2 (.inr hq)]
        exact h

theorem lineComment?_eq_some_iff {s rest : Text} :
    lineComment? s = some rest ↔ ReadsLineComment s rest := by
  show lineComment? s = some rest ↔ ReadsMarker lineOpening [[], sameLine, nextLine] isLineBlank s rest
  rw [readsMarker_iff, lineComment?]
  cases afterKeyword? lineOpening s with
  | none => simp
  | some t =>
    simp only [Option.some.injEq, exists_eq_left']
    exact afterRun?_getD_iff (by decide)

end Marker

/-! ### One reading -/

/-- A qualifier starts where the other form has its first separating character. -/
theorem ReadsBlock.not_readsQualified {s t u : Text} (ht : ReadsBlock s t) : ¬ ReadsQualified s u := by
  rw [← Marker.block?_eq_some_iff, Marker.block?] at ht
  rw [← Marker.qualified?_eq_some_iff, Marker.qualified?]
  cases hkey : Marker.afterKeyword? Marker.blockOpening s with
  | none => simp
  | some k =>
    rw [hkey] at ht
    simp [Marker.afterQualifier?_of_run (by decide) ht]

theorem ReadsBlock.unique {s t u : Text} (ht : ReadsBlock s t) (hu : ReadsBlock s u) : t = u := by
  rw [← Marker.block?_eq_some_iff] at ht hu
  exact Option.some.inj (ht.symm.trans hu)

theorem ReadsQualified.unique {s t u : Text} (ht : ReadsQualified s t) (hu : ReadsQualified s u) :
    t = u := by
  rw [← Marker.qualified?_eq_some_iff] at ht hu
  exact Option.some.inj (ht.symm.trans hu)

theorem ReadsLineComment.unique {s t u : Text} (ht : ReadsLineComment s t)
    (hu : ReadsLineComment s u) : t = u := by
  rw [← Marker.lineComment?_eq_some_iff] at ht hu
  exact Option.some.inj (ht.symm.trans hu)

end SuppressionAudit

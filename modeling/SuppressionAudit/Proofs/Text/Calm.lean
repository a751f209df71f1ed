import Mathlib.Data.List.Infix
import SuppressionAudit.Text.Cluster

/-!
# Texts that can be cut

The clusters of a text take fewer cells than the text itself only where it begins with two joiners.
A text without two joiners side by side can be cut to any number of cells, and so can its parts and
what they are filled up to.
-/

namespace SuppressionAudit

namespace Text

/-- Whether no two joiners stand side by side in a text. -/
def IsCalm (s : Text) : Prop := ¬ [joiner, joiner] <:+: s

theorem IsCalm.of_isInfix {s t : Text} (h : IsCalm t) (hs : s <:+: t) : IsCalm s :=
  fun hj => h (hj.trans hs)

theorem isCalm_of_not_mem {s : Text} (h : joiner ∉ s) : IsCalm s :=
  fun hj => h (hj.subset List.mem_cons_self)

theorem isCalm_nil : IsCalm [] := isCalm_of_not_mem List.not_mem_nil

theorem isCalm_spaces (n : Nat) : IsCalm (spaces n) :=
  isCalm_of_not_mem fun h => absurd (List.eq_of_mem_replicate h) (by decide)

theorem isCalm_cons_iff {c : Char} {s : Text} :
    IsCalm (c :: s) ↔ ¬(c = joiner ∧ s.head? = some joiner) ∧ IsCalm s := by
  have hprefix : [joiner, joiner] <+: c :: s ↔ c = joiner ∧ s.head? = some joiner := by
    cases s with
    | nil => simp
    | cons d s => simp [List.cons_prefix_cons, eq_comm]
  unfold IsCalm
  rw [List.infix_cons_iff, hprefix]
  tauto

theorem IsCalm.append {s t : Text} (hs : IsCalm s) (ht : IsCalm t)
    (hmiddle : t.head? = some joiner → s.getLast? ≠ some joiner) : IsCalm (s ++ t) := by
  induction s with
  | nil => exact ht
  | cons c s ih =>
    obtain ⟨hc, hs⟩ := isCalm_cons_iff.1 hs
    cases s with
    | nil =>
      refine isCalm_cons_iff.2 ⟨fun e => ?_, ht⟩
      exact hmiddle e.2 (by rw [e.1]; rfl)
    | cons d s =>
      have hrest := ih hs fun e => by simpa using hmiddle e
      exact isCalm_cons_iff.2 ⟨hc, hrest⟩

theorem IsCalm.getLast?_ne {s t : Text} (h : IsCalm (s ++ t)) (ht : t.head? = some joiner) :
    s.getLast? ≠ some joiner := by
  intro hs
  obtain ⟨front, rfl⟩ := List.getLast?_eq_some_iff.1 hs
  obtain ⟨rest, rfl⟩ := List.head?_eq_some_iff.1 ht
  exact h ⟨front, rest, by simp⟩

theorem IsCalm.append_of_not_mem {s t : Text} (hs : IsCalm s) (ht : joiner ∉ t) : IsCalm (s ++ t) :=
  hs.append (isCalm_of_not_mem ht) fun e => absurd (List.mem_of_head? e) ht

theorem IsCalm.append_left_of_not_mem {s t : Text} (hs : joiner ∉ s) (ht : IsCalm t) :
    IsCalm (s ++ t) :=
  (isCalm_of_not_mem hs).append ht fun _ e => hs (List.mem_of_getLast? e)

theorem joiner_not_mem_spaces (n : Nat) : joiner ∉ spaces n :=
  fun h => absurd (List.eq_of_mem_replicate h) (by decide)

theorem joiner_not_mem_append {s t : Text} (hs : joiner ∉ s) (ht : joiner ∉ t) : joiner ∉ s ++ t :=
  fun h => (List.mem_append.1 h).elim hs ht

/-! ### The cells of clusters -/

theorem sumOf_perm {numbers others : List Nat} (h : numbers.Perm others) :
    sumOf numbers = sumOf others := by
  induction h with
  | nil => rfl
  | cons n _ ih => rw [sumOf, sumOf, ih]
  | swap n m rest =>
    simp only [sumOf]
    omega
  | trans _ _ ih ih' => rw [ih, ih']

theorem clustersWidth_reverse (found : List Cluster) :
    clustersWidth found.reverse = clustersWidth found :=
  sumOf_perm ((List.reverse_perm found).map _)

namespace Clustering

theorem clustersWidth_extend {found : List Cluster} (h : found ≠ []) (c : Char) (wider : Nat) :
    clustersWidth (extend found c wider) = clustersWidth found + wider := by
  cases found with
  | nil => exact absurd rfl h
  | cons cluster rest =>
    simp only [extend, clustersWidth, List.map_cons, sumOf]
    omega

theorem extend_ne_nil (found : List Cluster) (c : Char) (wider : Nat) :
    extend found c wider ≠ [] := by
  cases found <;> simp [extend]

/-- One character makes the clusters at least as much wider as it is measured with, when the character
that a mark makes wider is the same or none. -/
theorem read_wider {r : Clustering} {latest : Option Char} (hfound : r.found ≠ [])
    (hlatest : latest = none ∨ latest = r.latest) (c : Char) (s : Text) :
    ∃ (cells : Nat) (next : Option Char),
      widthAfter r.joined latest (c :: s) = cells + widthAfter (r.read c).joined next s ∧
      clustersWidth r.found + cells ≤ clustersWidth (r.read c).found ∧
      (next = none ∨ next = (r.read c).latest) ∧ (r.read c).found ≠ [] := by
  have hempty : r.found.isEmpty = false := by simpa using hfound
  have hextend := clustersWidth_extend hfound c
  have hne := extend_ne_nil r.found c
  unfold read
  cases hjoined : r.joined with
  | true =>
    rw [if_pos rfl]
    exact ⟨0, latest, by simp [widthAfter], (hextend 0).ge, hlatest, hne 0⟩
  | false =>
    rw [if_neg Bool.false_ne_true, widthAfter]
    by_cases hj : c = joiner
    · rw [if_pos hj, if_pos hj]
      exact ⟨0, latest, by simp [hempty], (hextend 0).ge, hlatest, hne 0⟩
    · rw [if_neg hj, if_neg hj]
      by_cases hm : c = emojiMark
      · rw [if_pos hm, if_pos hm]
        have hmark : markWidth latest ≤ markWidth r.latest := by
          rcases hlatest with e | e <;> rw [e]
          exact Nat.zero_le _
        refine ⟨markWidth latest, none, rfl, ?_, Or.inl rfl, hne _⟩
        have := hextend (markWidth r.latest)
        simp only at this ⊢
        omega
      · rw [if_neg hm, if_neg hm]
        by_cases hw : charWidth c = 0
        · rw [if_pos hw, if_pos hw]
          exact ⟨charWidth c, latest, rfl, by rw [hw]; exact (hextend 0).ge, hlatest, hne 0⟩
        · rw [if_neg hw, if_neg hw]
          refine ⟨charWidth c, some c, rfl, ?_, Or.inr rfl, List.cons_ne_nil _ _⟩
          simp only [clustersWidth, List.map_cons, sumOf]
          omega

/-- After a first cluster the clusters take at least the cells that the characters are measured with. -/
theorem widthAfter_le_clustersWidth {s : Text} {r : Clustering} {latest : Option Char}
    (hfound : r.found ≠ []) (hlatest : latest = none ∨ latest = r.latest) :
    clustersWidth r.found + widthAfter r.joined latest s
      ≤ clustersWidth (s.foldl read r).found := by
  induction s generalizing r latest with
  | nil => simp [widthAfter]
  | cons c s ih =>
    obtain ⟨cells, next, hwidth, hcells, hnext, hne⟩ := read_wider hfound hlatest c s
    have := ih hne hnext
    rw [List.foldl_cons, hwidth]
    omega

theorem read_ne_nil (r : Clustering) (c : Char) : (r.read c).found ≠ [] := by
  unfold read
  repeat' split
  all_goals first
    | exact extend_ne_nil _ _ _
    | exact List.cons_ne_nil _ _

theorem joined_read {r : Clustering} {c : Char} (hjoined : r.joined = false) (hc : c ≠ joiner) :
    (r.read c).joined = false := by
  unfold read
  rw [hjoined, if_neg Bool.false_ne_true, if_neg hc]
  repeat' split
  all_goals rfl

/-- The first character, where it is no joiner. -/
theorem read_empty {c : Char} (hc : c ≠ joiner) (s : Text) :
    ∃ next : Option Char, (next = none ∨ next = (empty.read c).latest) ∧
      widthAfter false none (c :: s)
        = clustersWidth (empty.read c).found + widthAfter (empty.read c).joined next s := by
  rw [widthAfter, if_neg hc]
  unfold read empty
  rw [if_neg Bool.false_ne_true, if_neg hc]
  by_cases hm : c = emojiMark
  · rw [if_pos hm, if_pos hm]
    exact ⟨none, Or.inl rfl, rfl⟩
  · rw [if_neg hm, if_neg hm]
    by_cases hw : charWidth c = 0
    · rw [if_pos hw, if_pos hw, hw]
      exact ⟨none, Or.inl rfl, rfl⟩
    · rw [if_neg hw, if_neg hw]
      exact ⟨some c, Or.inr rfl, rfl⟩

end Clustering

/-- Only the second of two joiners in front of a text would hide the character behind it. -/
theorem width_le_clustersWidth {s : Text} (h : IsCalm s) : width s ≤ clustersWidth (clusters s) := by
  rw [clusters, clustersWidth_reverse]
  cases s with
  | nil => exact Nat.zero_le _
  | cons c s =>
    rw [List.foldl_cons]
    by_cases hc : c = joiner
    · subst hc
      cases s with
      | nil => exact Nat.zero_le _
      | cons d s =>
        have hd : d ≠ joiner := by
          rintro rfl
          exact (isCalm_cons_iff.1 h).1 ⟨rfl, rfl⟩
        have hjoined : ((Clustering.empty.read joiner).read d).joined = false :=
          Clustering.joined_read rfl hd
        have := Clustering.widthAfter_le_clustersWidth (s := s)
          (Clustering.read_ne_nil (Clustering.empty.read joiner) d) (Or.inl rfl)
        rw [hjoined] at this
        exact (Nat.le_add_left _ _).trans this
    · obtain ⟨next, hnext, hwidth⟩ := Clustering.read_empty hc s
      rw [width, hwidth]
      exact Clustering.widthAfter_le_clustersWidth (Clustering.read_ne_nil _ c) hnext

/-! ### Cutting -/

theorem takeClusters_isPrefix (room : Nat) (found : List Cluster) :
    ∃ front, front <+: (found.map Cluster.chars).flatten ∧
      (takeClusters room found = front ∨ takeClusters room found = front ++ [' ']) := by
  induction found generalizing room with
  | nil => exact ⟨[], List.nil_prefix, Or.inl (by cases room <;> rfl)⟩
  | cons cluster rest ih =>
    cases room with
    | zero => exact ⟨[], List.nil_prefix, Or.inl rfl⟩
    | succ room =>
      rw [takeClusters]
      split
      · obtain ⟨front, hfront, heq⟩ := ih (room + 1 - cluster.width)
        refine ⟨cluster.chars ++ front, ?_, ?_⟩
        · rw [List.map_cons, List.flatten_cons]
          exact (List.prefix_append_right_inj _).2 hfront
        · rcases heq with e | e <;> simp [e]
      · exact ⟨[], List.nil_prefix, Or.inr rfl⟩

theorem IsCalm.takeClusters {s : Text} (h : IsCalm s) (room : Nat) :
    IsCalm (takeClusters room (clusters s)) := by
  obtain ⟨front, hfront, heq⟩ := takeClusters_isPrefix room (clusters s)
  rw [flatten_clusters] at hfront
  have hcalm := h.of_isInfix hfront.isInfix
  rcases heq with e | e <;> rw [e]
  · exact hcalm
  · exact hcalm.append_of_not_mem (by decide)

/-- A calm text can be cut to any number of cells below its own. -/
theorem IsCalm.takeCells_ok {s : Text} (h : IsCalm s) {total : Nat} (htotal : total < width s) :
    ∃ cut, takeCells total s = .ok cut ∧ IsCalm cut := by
  have hwidth := width_le_clustersWidth h
  by_cases hzero : total = 0
  · exact ⟨[], by rw [takeCells, if_pos hzero], isCalm_nil⟩
  · have hsome : clustersWidth (clusters s) ≠ 0 := by omega
    have hlong : ¬ clustersWidth (clusters s) < total := by omega
    exact ⟨_, by simp only [takeCells, if_neg hzero, if_neg hsome, if_neg hlong], h.takeClusters total⟩

theorem IsCalm.padRight {s : Text} (h : IsCalm s) (total : Nat) : IsCalm (padRight total s) :=
  h.append_of_not_mem (joiner_not_mem_spaces _)

theorem IsCalm.fitCells_ok {s : Text} (h : IsCalm s) (total : Nat) :
    ∃ cut, fitCells total s = .ok cut ∧ IsCalm cut := by
  unfold fitCells
  split
  · exact ⟨[], rfl, isCalm_nil⟩
  · split
    · next hwidth => exact h.takeCells_ok hwidth
    · exact ⟨_, rfl, h.padRight total⟩

end Text

end SuppressionAudit

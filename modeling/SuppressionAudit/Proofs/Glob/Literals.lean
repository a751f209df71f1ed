import SuppressionAudit.Proofs.Glob.Pruning

/-!
# Literal patterns

A pattern segment without an asterisk, a question mark and an opening bracket takes itself and nothing
else; behind one asterisk such a text takes the segments that end in it. A pattern of literal segments and
a group takes the paths that begin with the segments.
-/

namespace SuppressionAudit

namespace Glob

def IsLiteral (head : Text) : Prop := ∀ c ∈ head, c ≠ '*' ∧ c ≠ '?' ∧ c ≠ '['

instance (head : Text) : Decidable (IsLiteral head) :=
  List.decidableBAll (fun c => c ≠ '*' ∧ c ≠ '?' ∧ c ≠ '[') head

variable {head tail segment : Text}

theorem piecesAfter_of_isLiteral (h : IsLiteral head) :
    SegmentPattern.piecesAfter 0 head = head.map .literal := by
  induction head with
  | nil => rfl
  | cons c head ih =>
    obtain ⟨hmany, hany, hopen⟩ := h c List.mem_cons_self
    have hrest := ih fun d hd => h d (List.mem_cons_of_mem _ hd)
    simp only [SegmentPattern.piecesAfter, hmany, hany, hopen, if_false, hrest, List.map_cons]

theorem covers_literals_iff :
    Cover.covers SegmentPattern.isMany SegmentPattern.pieceHolds (head.map .literal) segment = true ↔
      segment = head := by
  induction head generalizing segment with
  | nil => exact Cover.covers_nil_iff
  | cons c head ih =>
    have hone : SegmentPattern.isMany (.literal c) = false := rfl
    rw [List.map_cons, Cover.covers_one_iff hone]
    constructor
    · rintro ⟨d, rest, rfl, hd, hrest⟩
      have hdc : d = c := by simpa [SegmentPattern.pieceHolds] using hd
      rw [hdc, ih.1 hrest]
    · rintro rfl
      exact ⟨c, head, rfl, by simp [SegmentPattern.pieceHolds], ih.2 rfl⟩

theorem takesOne_iff_eq (h : IsLiteral head) : takesOne head segment = true ↔ segment = head := by
  unfold takesOne SegmentPattern.ofText
  rw [SegmentPattern.accepts_eq, piecesAfter_of_isLiteral h]
  exact covers_literals_iff

theorem takesOne_asterisk_iff (h : IsLiteral tail) :
    takesOne ('*' :: tail) segment = true ↔ tail <:+ segment := by
  have hpieces : SegmentPattern.piecesAfter 0 ('*' :: tail) = .many :: tail.map .literal := by
    rw [← piecesAfter_of_isLiteral h]
    simp [SegmentPattern.piecesAfter]
  have hmany : SegmentPattern.isMany .many = true := rfl
  unfold takesOne SegmentPattern.ofText
  rw [SegmentPattern.accepts_eq, hpieces, Cover.covers_group_iff hmany]
  constructor
  · rintro ⟨front, rest, rfl, hrest⟩
    exact ⟨front, by rw [covers_literals_iff.1 hrest]⟩
  · rintro ⟨front, rfl⟩
    exact ⟨front, tail, rfl, covers_literals_iff.2 rfl⟩

/-! ### Patterns of literal segments and a group, or of one segment -/

variable {glob : Text} {path : List Text}

theorem isAnyGroup_of_isLiteral (h : IsLiteral head) : isAnyGroup head = false := by
  rw [isAnyGroup, beq_eq_false_iff_ne]
  rintro rfl
  exact (h '*' List.mem_cons_self).1 rfl

theorem covers_below_iff {heads : List Text} (h : ∀ head ∈ heads, IsLiteral head) :
    Cover.covers isAnyGroup takesOne (heads ++ [anyGroup]) path = true ↔ heads <+: path := by
  induction heads generalizing path with
  | nil =>
    rw [List.nil_append, Cover.covers_group_iff isAnyGroup_anyGroup]
    exact iff_of_true ⟨path, [], (List.append_nil _).symm, rfl⟩ (List.nil_prefix)
  | cons head heads ih =>
    have hhead := h head List.mem_cons_self
    have hrest : ∀ {below}, Cover.covers isAnyGroup takesOne (heads ++ [anyGroup]) below = true ↔ heads <+: below :=
      ih fun other hother => h other (List.mem_cons_of_mem _ hother)
    rw [List.cons_append, Cover.covers_one_iff (isAnyGroup_of_isLiteral hhead)]
    constructor
    · rintro ⟨first, below, rfl, hfirst, hbelow⟩
      rw [(takesOne_iff_eq hhead).1 hfirst]
      exact List.cons_prefix_cons.2 ⟨rfl, hrest.1 hbelow⟩
    · rintro ⟨below, rfl⟩
      exact ⟨head, heads ++ below, rfl, (takesOne_iff_eq hhead).2 rfl, hrest.2 (List.prefix_append _ _)⟩

theorem takes_below_iff {heads : List Text} (hglob : segments? glob = some (heads ++ [anyGroup]))
    (h : ∀ head ∈ heads, IsLiteral head) : Takes glob path ↔ heads <+: path := by
  simp [Takes, hglob, covers_below_iff h]

theorem takes_directory_iff (hglob : segments? glob = some [head, anyGroup]) (h : IsLiteral head) :
    Takes glob path ↔ ∃ below, path = head :: below := by
  have hheads : ∀ other ∈ [head], IsLiteral other := by simpa using h
  have hbelow : Takes glob path ↔ [head] <+: path := takes_below_iff hglob hheads
  rw [hbelow]
  exact ⟨fun ⟨below, hpath⟩ => ⟨below, hpath.symm⟩, fun ⟨below, hpath⟩ => ⟨below, hpath.symm⟩⟩

theorem takes_segment_iff (hglob : segments? glob = some [head]) (hone : isAnyGroup head = false) :
    Takes glob path ↔ ∃ name, path = [name] ∧ takesOne head name = true := by
  have hcovers : Cover.covers isAnyGroup takesOne [head] path = true ↔
      ∃ name, path = [name] ∧ takesOne head name = true := by
    rw [Cover.covers_one_iff hone]
    constructor
    · rintro ⟨name, rest, rfl, hname, hrest⟩
      exact ⟨name, by rw [Cover.covers_nil_iff.1 hrest], hname⟩
    · rintro ⟨name, rfl, hname⟩
      exact ⟨name, [], rfl, hname, rfl⟩
  simp [Takes, hglob, hcovers]

end Glob

end SuppressionAudit

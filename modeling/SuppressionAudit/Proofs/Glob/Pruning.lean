import SuppressionAudit.Discovery
import SuppressionAudit.Proofs.Glob.Covers
import SuppressionAudit.Proofs.Text.Cuts

/-!
# Pruned directories

A directory is matched with an empty segment behind its names. A pattern that takes these segments takes
every path below the directory exactly when it holds a group, has no empty segment in front of it, and
goes on with segments that take any name. Other patterns that match a directory miss some path below it.
-/

namespace SuppressionAudit

/-- A name in a path: not empty, no slash in it, and not the dot that leads nowhere. -/
structure IsName (name : Text) : Prop where
  ne_nil : name ≠ []
  no_slash : '/' ∉ name
  ne_here : name ≠ Path.here

structure IsBelowRoot (parts : List Text) : Prop where
  ne_nil : parts ≠ []
  names : ∀ name ∈ parts, IsName name

theorem IsName.repeated {name : Text} (h : IsName name) {n : Nat} (hn : n ≠ 0) :
    IsBelowRoot (List.replicate n name) := by
  refine ⟨by simpa using hn, fun other hother => ?_⟩
  rw [List.eq_of_mem_replicate hother]
  exact h

theorem IsBelowRoot.append {parts below : List Text} (h : IsBelowRoot parts) (hb : IsBelowRoot below) :
    IsBelowRoot (parts ++ below) := by
  refine ⟨fun e => h.ne_nil (List.append_eq_nil_iff.1 e).1, fun name hmem => ?_⟩
  rcases List.mem_append.1 hmem with hmem | hmem
  · exact h.names name hmem
  · exact hb.names name hmem

/-! ### Segments of a path -/

theorem segmentsOf_joinParts {parts : List Text} (h : IsBelowRoot parts) :
    segmentsOf (Path.joinParts parts) = parts :=
  Text.splitOn_joinWith h.ne_nil fun name hn => (h.names name hn).no_slash

theorem segmentsOf_joinParts_slash {parts : List Text} (h : IsBelowRoot parts) :
    segmentsOf (Path.joinParts parts ++ ['/']) = parts ++ [[]] := by
  have hjoin : Path.joinParts parts ++ ['/'] = Text.joinWith ['/'] (parts ++ [[]]) :=
    (Text.joinWith_append_nil h.ne_nil).symm
  rw [hjoin]
  refine Text.splitOn_joinWith (by simp) fun piece hp => ?_
  rcases List.mem_append.1 hp with hp | hp
  · exact (h.names piece hp).no_slash
  · rw [List.mem_singleton.1 hp]
    exact List.not_mem_nil

/-! ### Segments that take nothing -/

namespace Glob

theorem piecesAfter_ne_nil (c : Char) (s : Text) : SegmentPattern.piecesAfter 0 (c :: s) ≠ [] := by
  unfold SegmentPattern.piecesAfter
  split
  · simp
  · split
    · simp
    · split
      · split <;> simp
      · simp

/-- A pattern segment that is not empty and takes an empty segment takes every segment. -/
theorem takesOne_of_takes_nil {head : Text} (hne : head ≠ []) (h : takesOne head [] = true)
    (segment : Text) : takesOne head segment = true := by
  unfold takesOne at h ⊢
  rw [SegmentPattern.accepts_eq] at h ⊢
  have hpieces : SegmentPattern.ofText head ≠ [] := by
    cases head with
    | nil => exact absurd rfl hne
    | cons c head => exact piecesAfter_ne_nil c head
  cases hp : SegmentPattern.ofText head with
  | nil => exact absurd hp hpieces
  | cons piece pieces =>
    rw [hp] at h
    cases hmany : SegmentPattern.isMany piece with
    | false =>
      obtain ⟨x, rest, hnil, -⟩ := (Cover.covers_one_iff hmany).1 h
      exact absurd hnil (List.cons_ne_nil x rest).symm
    | true =>
      obtain ⟨front, rest, hnil, hrest⟩ := (Cover.covers_group_iff hmany).1 h
      obtain ⟨rfl, rfl⟩ := List.append_eq_nil_iff.1 hnil.symm
      exact (Cover.covers_group_iff hmany).2 ⟨segment, [], (List.append_nil _).symm, hrest⟩

theorem takesOne_nil {segment : Text} : takesOne [] segment = true ↔ segment = [] := by
  unfold takesOne
  rw [SegmentPattern.accepts_eq]
  exact Cover.covers_nil_iff

/-! ### Patterns and what is below a directory -/

def Takes (glob : Text) (path : List Text) : Prop :=
  ∃ segments, segments? glob = some segments ∧
    Cover.covers isAnyGroup takesOne segments path = true

/-- A pattern goes on below every directory that it takes: it holds a group, no segment in front of the
group is empty, and every segment behind the group takes any name. -/
def TakesAllBelow (glob : Text) : Prop :=
  ∃ before after, segments? glob = some (before ++ anyGroup :: after) ∧ [] ∉ before ∧
    ∀ segment ∈ after, ∀ name, IsName name → takesOne segment name = true

theorem accepts_iff {glob path : Text} : accepts glob path = true ↔ Takes glob (segmentsOf path) := by
  unfold accepts Takes
  cases hs : segments? glob with
  | none => simp
  | some segments => simp [takesAll_eq]

theorem isAnyGroup_anyGroup : isAnyGroup anyGroup = true := rfl

theorem no_group_or_last_group (segments : List Text) :
    (∀ segment ∈ segments, isAnyGroup segment = false) ∨
      ∃ before after, segments = before ++ anyGroup :: after ∧
        ∀ segment ∈ after, isAnyGroup segment = false := by
  induction segments with
  | nil => exact .inl (by simp)
  | cons head segments ih =>
    rcases ih with hnone | ⟨before, after, rfl, hafter⟩
    · cases hhead : isAnyGroup head with
      | false =>
        refine .inl fun segment hmem => ?_
        rcases List.mem_cons.1 hmem with rfl | hmem
        · exact hhead
        · exact hnone segment hmem
      | true =>
        have hgroup : head = anyGroup := by simpa [isAnyGroup] using hhead
        exact .inr ⟨[], segments, by rw [hgroup, List.nil_append], hnone⟩
    · exact .inr ⟨head :: before, after, rfl, hafter⟩

/-- The empty segment behind a directory is replaced by what lies below the directory. -/
theorem TakesAllBelow.takes_below {glob : Text} (h : TakesAllBelow glob) {parts below : List Text}
    (hparts : IsBelowRoot parts) (hbelow : IsBelowRoot below) (ht : Takes glob (parts ++ [[]])) :
    Takes glob (parts ++ below) := by
  obtain ⟨before, after, hsegments, hbefore, hafter⟩ := h
  obtain ⟨segments, hsegments', hcovers⟩ := ht
  obtain rfl := Option.some.inj (hsegments.symm.trans hsegments')
  refine ⟨_, hsegments, (Cover.covers_around_group_iff isAnyGroup_anyGroup).2 ?_⟩
  obtain ⟨front, middle, rest, hcut, hfront, hrest⟩ :=
    (Cover.covers_around_group_iff isAnyGroup_anyGroup).1 hcovers
  -- the empty segment is the last one of the rest, of the group or of the front
  rcases List.eq_nil_or_concat rest with rfl | ⟨rest, last, rfl⟩
  · rw [List.append_nil] at hcut
    rcases List.eq_nil_or_concat middle with rfl | ⟨middle, last, rfl⟩
    · rw [List.append_nil] at hcut
      subst hcut
      cases below with
      | nil => exact absurd rfl hbelow.ne_nil
      | cons name more =>
        refine ⟨parts ++ [name], more, [], by simp, ?_, hrest⟩
        refine Cover.covers_replace_last (fun p hp _ htakes => ?_) hfront
        have hp' : p ≠ [] := fun e => hbefore (e ▸ hp)
        exact takesOne_of_takes_nil hp' htakes name
    · rw [List.concat_eq_append, ← List.append_assoc] at hcut
      obtain ⟨rfl, -⟩ := List.append_inj' hcut rfl
      exact ⟨front, middle ++ below, [], by simp, hfront, hrest⟩
  · rw [List.concat_eq_append] at hcut hrest
    rw [← List.append_assoc] at hcut
    obtain ⟨rfl, -⟩ := List.append_inj' hcut rfl
    have hnames : ∀ name ∈ rest ++ below, IsName name := by
      intro name hmem
      rcases List.mem_append.1 hmem with hmem | hmem
      · exact hparts.names name (List.mem_append_right _ hmem)
      · exact hbelow.names name hmem
    have hany : ∀ segment ∈ after, ∀ name ∈ rest ++ below, takesOne segment name = true :=
      fun segment hs name hn => hafter segment hs name (hnames name hn)
    obtain ⟨more, rest', hcut', hrest'⟩ := Cover.covers_replace_last_by_many hbelow.ne_nil hany hrest
    refine ⟨front, middle ++ more, rest', ?_, hfront, hrest'⟩
    rw [List.append_assoc (front ++ middle), hcut']
    simp only [List.append_assoc]

/-- A pattern that takes a directory and all that is below it goes on below every directory. -/
theorem takesAllBelow_of_takes {glob : Text} {parts : List Text} (hparts : IsBelowRoot parts)
    (ht : Takes glob (parts ++ [[]])) (hall : ∀ below, IsBelowRoot below → Takes glob (parts ++ below)) :
    TakesAllBelow glob := by
  obtain ⟨segments, hsegments, hcovers⟩ := ht
  have hbelow : ∀ below, IsBelowRoot below →
      Cover.covers isAnyGroup takesOne segments (parts ++ below) = true := by
    intro below hb
    obtain ⟨segments', hsegments', hcovers'⟩ := hall below hb
    obtain rfl := Option.some.inj (hsegments.symm.trans hsegments')
    exact hcovers'
  have hsome : IsName ['a'] := ⟨by decide, by decide, by decide⟩
  rcases no_group_or_last_group segments with hnone | ⟨before, after, rfl, hlast⟩
  · -- without a group the pattern takes paths of one length only
    have hdirectory := Cover.length_eq_of_covers hnone hcovers
    have htwo := Cover.length_eq_of_covers hnone (hbelow _ (hsome.repeated (by decide : 2 ≠ 0)))
    simp only [List.length_append, List.length_singleton, List.length_replicate] at hdirectory htwo
    omega
  · refine ⟨before, after, hsegments, ?_, ?_⟩
    · -- an empty segment takes no name, and nothing else is below a directory
      intro hempty
      have hmem : [] ∈ before ++ anyGroup :: after := List.mem_append_left _ hempty
      have hone := hsome.repeated (by decide : 1 ≠ 0)
      obtain ⟨x, hx, htakes⟩ := Cover.exists_held_of_covers hmem rfl (hbelow _ hone)
      have hnil := takesOne_nil.1 htakes
      rcases List.mem_append.1 hx with hx | hx
      · exact (hparts.names x hx).ne_nil hnil
      · exact (hone.names x hx).ne_nil hnil
    · intro segment hmem name hname
      have hpos := List.length_pos_of_mem hmem
      have hmany := hname.repeated (Nat.ne_of_gt hpos)
      obtain ⟨front, middle, rest, hcut, -, hrest⟩ :=
        (Cover.covers_around_group_iff isAnyGroup_anyGroup).1 (hbelow _ hmany)
      -- the segments behind the last group take the last names, all of which are `name`
      have hlen := Cover.length_eq_of_covers hlast hrest
      obtain ⟨-, hsame⟩ := List.append_inj' hcut (by rw [hlen, List.length_replicate])
      obtain ⟨x, hx, htakes⟩ := Cover.exists_held_of_covers hmem (hlast segment hmem) hrest
      rw [← hsame] at hx
      rw [List.eq_of_mem_replicate hx] at htakes
      exact htakes

end Glob

/-! ### Exclusions -/

theorem Discovery.isExcluded_directory_iff {globs : List Text} {parts : List Text}
    (h : IsBelowRoot parts) :
    isExcluded globs (Path.joinParts parts) true = true ↔
      ∃ glob ∈ globs, Glob.Takes glob (parts ++ [[]]) := by
  simp only [isExcluded, Glob.anyAccepts, if_true, List.any_eq_true, Glob.accepts_iff,
    segmentsOf_joinParts_slash h]

theorem Discovery.isExcluded_file_iff {globs : List Text} {parts : List Text}
    (h : IsBelowRoot parts) :
    isExcluded globs (Path.joinParts parts) false = true ↔
      ∃ glob ∈ globs, Glob.Takes glob parts := by
  simp only [isExcluded, Glob.anyAccepts, Bool.false_eq_true, if_false, List.any_eq_true,
    Glob.accepts_iff, segmentsOf_joinParts h]

end SuppressionAudit

import SuppressionAudit.Proofs.Directive.Markers
import SuppressionAudit.Proofs.Directive.ParsedLists

/-!
# Where names start

The offsets of the rules in a list are told from its characters: a name starts where neither a blank nor a comma
stands and nothing but blanks lies back to the comma before it. This is a matter of the text between the start of
the list and the name, so two lists that share a part of a text can be compared.
-/

namespace SuppressionAudit

/-- In the rules between two offsets a name starts: no blank and no comma stands there, and nothing but blanks
back to the comma before it. -/
structure StartsName (content : Text) (low high offset : Nat) : Prop where
  low_le : low ≤ offset
  lt_high : offset < high
  letter : ∃ c, content[offset]? = some c ∧ isBlank c = false ∧ c ≠ ','
  before : ∀ j, low ≤ j → j < offset →
    (∃ k, j ≤ k ∧ k < offset ∧ content[k]? = some ',') ∨ ∃ c, content[j]? = some c ∧ isBlank c = true

namespace Text

variable {s : Text} {c : Char}

theorem isBlank_of_lt_leadingBlanks {j : Nat} (hj : j < leadingBlanks s) (hc : s[j]? = some c) :
    isBlank c = true := by
  rw [← trimStart_append s, List.getElem?_append_left hj] at hc
  exact (Run.of_takeWhile isBlank s).inside c (List.mem_of_getElem? hc)

theorem isBlank_at_leadingBlanks (hc : s[leadingBlanks s]? = some c) : isBlank c = false := by
  have hhead : (s.takeWhile isBlank ++ trimStart s)[leadingBlanks s]? = (trimStart s).head? := by
    rw [leadingBlanks, List.getElem?_append_right (Nat.le_refl _), Nat.sub_self, List.head?_eq_getElem?]
  rw [trimStart_append] at hhead
  exact (Run.of_takeWhile isBlank s).stops c (hhead.symm.trans hc)

end Text

namespace StartsName

variable {content : Text} {low high offset : Nat}

theorem of_prefix_drop {s : Text} (h : s <+: content.drop low) :
    StartsName content low (low + s.length) (low + offset) ↔ StartsName s 0 s.length offset := by
  have hget : ∀ i, i < s.length → content[low + i]? = s[i]? := by
    intro i hi
    obtain ⟨rest, hrest⟩ := h
    rw [← List.getElem?_drop, ← hrest, List.getElem?_append_left hi]
  constructor
  · rintro ⟨-, hlt, ⟨c, hc, hletter⟩, hbefore⟩
    have hin : offset < s.length := by omega
    rw [hget offset hin] at hc
    refine ⟨Nat.zero_le _, hin, ⟨c, hc, hletter⟩, fun j _ hj => ?_⟩
    rcases hbefore (low + j) (by omega) (by omega) with ⟨k, hle, hk, hcomma⟩ | ⟨c, hc, hblank⟩
    · obtain ⟨i, rfl⟩ : ∃ i, k = low + i := ⟨k - low, by omega⟩
      rw [hget i (by omega)] at hcomma
      exact .inl ⟨i, by omega, by omega, hcomma⟩
    · rw [hget j (by omega)] at hc
      exact .inr ⟨c, hc, hblank⟩
  · rintro ⟨-, hlt, ⟨c, hc, hletter⟩, hbefore⟩
    rw [← hget offset hlt] at hc
    refine ⟨by omega, by omega, ⟨c, hc, hletter⟩, fun j hle hj => ?_⟩
    obtain ⟨i, rfl⟩ : ∃ i, j = low + i := ⟨j - low, by omega⟩
    rcases hbefore i (Nat.zero_le _) (by omega) with ⟨k, hle, hk, hcomma⟩ | ⟨c, hc, hblank⟩
    · rw [← hget k (by omega)] at hcomma
      exact .inl ⟨low + k, by omega, by omega, hcomma⟩
    · rw [← hget i (by omega)] at hc
      exact .inr ⟨c, hc, hblank⟩

/-- In a list that begins further up, behind a text without blanks and commas, the same names start behind the
next comma, and none before it. -/
theorem outer_iff {start lowInside highInside : Nat} (h : StartsName content lowInside highInside offset)
    (hlow : low ≤ start) (hstart : start < lowInside) {c : Char} (hc : content[start]? = some c)
    (hblank : isBlank c = false) (hcommas : ∀ j, start ≤ j → j < lowInside → content[j]? ≠ some ',') :
    StartsName content low high offset ↔
      offset < high ∧ ∃ comma, lowInside ≤ comma ∧ comma < offset ∧ content[comma]? = some ',' := by
  have hle := h.low_le
  constructor
  · rintro ⟨-, hlt, -, hbefore⟩
    refine ⟨hlt, ?_⟩
    rcases hbefore start hlow (by omega) with ⟨comma, hge, hcomma, hget⟩ | ⟨d, hd, hdblank⟩
    · refine ⟨comma, ?_, hcomma, hget⟩
      by_contra hnot
      exact hcommas comma hge (by omega) hget
    · rw [hc] at hd
      obtain rfl := Option.some.inj hd
      rw [hblank] at hdblank
      exact Bool.noConfusion hdblank
  · rintro ⟨hlt, comma, hge, hcomma, hget⟩
    refine ⟨by omega, hlt, h.letter, fun j _ hj => ?_⟩
    rcases Nat.lt_or_ge comma j with hbehind | hfront
    · exact h.before j (by omega) hj
    · exact .inl ⟨comma, hfront, hcomma, hget⟩

/-- An entry without commas names its trimmed text behind its leading blanks, if there is any. -/
theorem entry_iff {entry : Text} (hcomma : ',' ∉ entry) :
    StartsName entry 0 entry.length offset ↔ Text.trim entry ≠ [] ∧ offset = Text.leadingBlanks entry := by
  have hfits := Text.leadingBlanks_add_length_trim_le entry
  constructor
  · rintro ⟨-, hlt, ⟨c, hc, hletter, -⟩, hbefore⟩
    refine ⟨?_, ?_⟩
    · intro hnil
      have hblank := Text.isCore_nil_iff.1 (Text.isCore_iff.2 hnil) c (List.mem_of_getElem? hc)
      rw [hletter] at hblank
      exact Bool.noConfusion hblank
    · rcases Nat.lt_trichotomy offset (Text.leadingBlanks entry) with hfront | heq | hbehind
      · have hblank := Text.isBlank_of_lt_leadingBlanks hfront hc
        rw [hletter] at hblank
        exact Bool.noConfusion hblank
      · exact heq
      · exfalso
        rcases hbefore _ (Nat.zero_le _) hbehind with ⟨k, -, -, hk⟩ | ⟨d, hd, hblank⟩
        · exact hcomma (List.mem_of_getElem? hk)
        · rw [Text.isBlank_at_leadingBlanks hd] at hblank
          exact Bool.noConfusion hblank
  · rintro ⟨hne, rfl⟩
    have hpos := List.length_pos_iff.2 hne
    have hget : ∀ j, j ≤ Text.leadingBlanks entry → ∃ c, entry[j]? = some c :=
      fun j hj => ⟨_, List.getElem?_eq_getElem (by omega)⟩
    obtain ⟨c, hc⟩ := hget _ (Nat.le_refl _)
    refine ⟨Nat.zero_le _, by omega, ⟨c, hc, Text.isBlank_at_leadingBlanks hc, ?_⟩, fun j _ hj => .inr ?_⟩
    · rintro rfl
      exact hcomma (List.mem_of_getElem? hc)
    · obtain ⟨d, hd⟩ := hget j (Nat.le_of_lt hj)
      exact ⟨d, hd, Text.isBlank_of_lt_leadingBlanks hj hd⟩

/-- The names of a text with a comma in it start in front of the comma or behind it. -/
theorem append_comma_iff {s t : Text} :
    StartsName (s ++ ',' :: t) 0 (s ++ ',' :: t).length offset ↔
      StartsName s 0 s.length offset ∨
        ∃ later, offset = s.length + 1 + later ∧ StartsName t 0 t.length later := by
  have hs : s <+: (s ++ ',' :: t).drop 0 := List.prefix_append s _
  have ht : t <+: (s ++ ',' :: t).drop (s.length + 1) := by
    rw [← List.drop_drop, List.drop_left]
    exact List.prefix_refl t
  have hget : (s ++ ',' :: t)[s.length]? = some ',' := by simp
  have hwhole : (s ++ ',' :: t).length = s.length + 1 + t.length := by
    simp only [List.length_append, List.length_cons]
    omega
  have hfront := @of_prefix_drop _ _ offset _ hs
  rw [Nat.zero_add, Nat.zero_add] at hfront
  rw [hwhole]
  constructor
  · intro h
    have hlt := h.lt_high
    rcases Nat.lt_trichotomy offset s.length with hin | rfl | hbehind
    · exact .inl (hfront.1 ⟨Nat.zero_le _, hin, h.letter, h.before⟩)
    · obtain ⟨c, hc, -, hne⟩ := h.letter
      rw [hget] at hc
      exact absurd (Option.some.inj hc).symm hne
    · obtain ⟨later, rfl⟩ : ∃ later, offset = s.length + 1 + later := ⟨offset - (s.length + 1), by omega⟩
      refine .inr ⟨later, rfl, (of_prefix_drop ht).1 ⟨by omega, hlt, h.letter, fun j _ hj => ?_⟩⟩
      exact h.before j (Nat.zero_le _) hj
  · rintro (h | ⟨later, rfl, h⟩)
    · have hin := hfront.2 h
      have hlt := h.lt_high
      exact ⟨Nat.zero_le _, by omega, hin.letter, hin.before⟩
    · have hin := (of_prefix_drop ht).2 h
      refine ⟨Nat.zero_le _, hin.lt_high, hin.letter, fun j _ hj => ?_⟩
      rcases Nat.lt_or_ge s.length j with hbehind | hbefore
      · exact hin.before j hbehind hj
      · exact .inl ⟨s.length, hbefore, by omega, hget⟩

end StartsName

namespace RuleList

theorem offset_mem_mentionsFrom_iff {entries : List Text} (hcomma : ∀ entry ∈ entries, ',' ∉ entry)
    {start offset : Nat} :
    (∃ mention ∈ mentionsFrom start entries, mention.offset = start + offset) ↔
      StartsName (Text.joinWith [','] entries) 0 (Text.joinWith [','] entries).length offset := by
  induction entries generalizing start offset with
  | nil =>
    constructor
    · rintro ⟨mention, hmem, -⟩
      exact absurd hmem List.not_mem_nil
    · intro h
      exact absurd h.lt_high (Nat.not_lt_zero _)
  | cons entry entries ih =>
    have hentry := @StartsName.entry_iff offset entry (hcomma entry List.mem_cons_self)
    -- the first entry names something or not, and the others are those of the text behind its comma
    have hcons : (∃ mention ∈ mentionsFrom start (entry :: entries), mention.offset = start + offset) ↔
        StartsName entry 0 entry.length offset ∨
          ∃ mention ∈ mentionsFrom (start + entry.length + 1) entries, mention.offset = start + offset := by
      rw [hentry, mentionsFrom]
      split
      · next hempty => simp [List.isEmpty_iff.1 hempty]
      · next hempty =>
        have hne : Text.trim entry ≠ [] := by simpa using hempty
        simp only [List.exists_mem_cons_iff, Nat.add_left_cancel_iff, ne_eq, hne, not_false_eq_true, true_and]
        rw [eq_comm]
    rw [hcons]
    cases entries with
    | nil => simp [mentionsFrom, Text.joinWith]
    | cons next more =>
      have hmore : ∀ later ∈ next :: more, ',' ∉ later := fun later hl => hcomma later (List.mem_cons_of_mem _ hl)
      rw [Text.joinWith, List.append_assoc, List.singleton_append, StartsName.append_comma_iff]
      refine or_congr_right ?_
      constructor
      · rintro ⟨mention, hmem, hoffset⟩
        have hstart := start_le_of_mem_mentionsFrom hmem
        refine ⟨offset - (entry.length + 1), by omega, (ih hmore).1 ⟨mention, hmem, ?_⟩⟩
        omega
      · rintro ⟨later, rfl, hlater⟩
        obtain ⟨mention, hmem, hoffset⟩ := (@ih hmore (start + entry.length + 1) later).2 hlater
        exact ⟨mention, hmem, by omega⟩

theorem offset_mem_mentions_iff {s : Text} {offset : Nat} :
    (∃ mention ∈ mentions s, mention.offset = offset) ↔ StartsName s 0 s.length offset := by
  have hentries : ∀ entry ∈ Text.splitOn ',' s, ',' ∉ entry := fun entry => Text.notMem_of_mem_splitOn
  have hiff := @offset_mem_mentionsFrom_iff _ hentries 0 offset
  rwa [Text.joinWith_splitOn, Nat.zero_add] at hiff

end RuleList

end SuppressionAudit

import SuppressionAudit.Proofs.Json.Tokens

/-!
# What the reader reads

The reader finds the value of every document, unless its arrays and objects are too deep inside each other,
and it finds no value in a text that is no document.
-/

namespace SuppressionAudit

namespace Json

variable {s t rest blanks : Text} {v w : Json} {items : List Json} {fields : List (Text × Json)} {c : Char}
  {fuel deeper : Nat}

/-! ### Blanks -/

theorem skipBlanks_append (h : IsBlanks blanks) (hc : isJsonBlank c = false) :
    skipBlanks (blanks ++ c :: s) = c :: s := by
  rw [skipBlanks, List.dropWhile_append_of_pos h, List.dropWhile_cons, hc, if_neg (by decide)]

theorem skipBlanks_eq_nil_iff : skipBlanks s = [] ↔ IsBlanks s := List.dropWhile_eq_nil_iff

/-- What is skipped are blanks. -/
theorem exists_skipped (s : Text) : ∃ blanks, IsBlanks blanks ∧ s = blanks ++ skipBlanks s :=
  ⟨s.takeWhile isJsonBlank, fun _ hc => List.mem_takeWhile_imp hc, List.takeWhile_append_dropWhile.symm⟩

/-! ### One step of the reader -/

theorem readValue_quote :
    readValue (fuel + 1) deeper ('"' :: s) = ofOption ((readString s).map fun p => (.str p.1, p.2)) := rfl

theorem readValue_atom (hc : c ∉ delimiters) :
    readValue (fuel + 1) deeper (c :: s) = ofOption (readAtom (c :: s)) := by
  simp only [delimiters, List.mem_cons, not_or] at hc
  obtain ⟨hquote, hbracket, hbrace, -⟩ := hc
  unfold readValue
  split <;> simp_all

theorem readValue_bracket_zero : readValue (fuel + 1) 0 ('[' :: s) = .error .tooDeep := rfl

theorem readValue_bracket_succ : readValue (fuel + 1) (deeper + 1) ('[' :: s) =
    match skipBlanks s with
    | ']' :: rest => .ok (.arr [], rest)
    | t => (readItems fuel deeper t).map fun p => (.arr p.1, p.2) := rfl

theorem readValue_bracket_nil (h : skipBlanks s = ']' :: rest) :
    readValue (fuel + 1) (deeper + 1) ('[' :: s) = .ok (.arr [], rest) := by
  rw [readValue_bracket_succ, h]
  rfl

theorem readValue_bracket (h : skipBlanks s = c :: t) (hc : c ≠ ']') :
    readValue (fuel + 1) (deeper + 1) ('[' :: s)
      = (readItems fuel deeper (c :: t)).map fun p => (.arr p.1, p.2) := by
  rw [readValue_bracket_succ, h]
  split
  · next heq => exact absurd (List.cons.inj heq).1 hc
  · rfl

theorem readValue_brace_zero : readValue (fuel + 1) 0 ('\x7b' :: s) = .error .tooDeep := rfl

theorem readValue_brace_succ : readValue (fuel + 1) (deeper + 1) ('\x7b' :: s) =
    match skipBlanks s with
    | '\x7d' :: rest => .ok (.obj [], rest)
    | t => (readFields fuel deeper t).map fun p => (.obj p.1, p.2) := rfl

theorem readValue_brace_nil (h : skipBlanks s = '\x7d' :: rest) :
    readValue (fuel + 1) (deeper + 1) ('\x7b' :: s) = .ok (.obj [], rest) := by
  rw [readValue_brace_succ, h]
  rfl

theorem readValue_brace (h : skipBlanks s = c :: t) (hc : c ≠ '\x7d') :
    readValue (fuel + 1) (deeper + 1) ('\x7b' :: s)
      = (readFields fuel deeper (c :: t)).map fun p => (.obj p.1, p.2) := by
  rw [readValue_brace_succ, h]
  split
  · next heq => exact absurd (List.cons.inj heq).1 hc
  · rfl

theorem readItems_succ : readItems (fuel + 1) deeper s =
    match readValue fuel deeper s with
    | .error fault => .error fault
    | .ok (v, s) =>
      match skipBlanks s with
      | ']' :: rest => .ok ([v], rest)
      | ',' :: s => (readItems fuel deeper (skipBlanks s)).map fun p => (v :: p.1, p.2)
      | _ => .error .malformed := rfl

theorem readItems_error {fault : ReadFault} (h : readValue fuel deeper s = .error fault) :
    readItems (fuel + 1) deeper s = .error fault := by
  rw [readItems_succ, h]

theorem readItems_last (h : readValue fuel deeper s = .ok (v, t)) (ht : skipBlanks t = ']' :: rest) :
    readItems (fuel + 1) deeper s = .ok ([v], rest) := by
  rw [readItems_succ, h]
  simp only [ht]

theorem readItems_more (h : readValue fuel deeper s = .ok (v, t)) (ht : skipBlanks t = ',' :: rest) :
    readItems (fuel + 1) deeper s
      = (readItems fuel deeper (skipBlanks rest)).map fun p => (v :: p.1, p.2) := by
  rw [readItems_succ, h]
  simp only [ht]

theorem readFields_quote : readFields (fuel + 1) deeper ('"' :: s) =
    match readString s with
    | none => .error .malformed
    | some (key, s) =>
      match skipBlanks s with
      | ':' :: s =>
        match readValue fuel deeper (skipBlanks s) with
        | .error fault => .error fault
        | .ok (v, s) =>
          match skipBlanks s with
          | '\x7d' :: rest => .ok ([(key, v)], rest)
          | ',' :: s => (readFields fuel deeper (skipBlanks s)).map fun p => ((key, v) :: p.1, p.2)
          | _ => .error .malformed
      | _ => .error .malformed := rfl

/-! ### Every document is read -/

theorem WritesAtom.depth_eq (h : WritesAtom s v) : v.depth = 0 := by
  cases h with
  | word hword =>
    have hwords : ∀ p ∈ wordValues, p.2.depth = 0 := by decide
    exact hwords _ hword
  | int _ => rfl
  | real _ => rfl

theorem Writes.head (h : Writes s v) : ∃ c rest, s = c :: rest ∧ isJsonBlank c = false ∧ c ≠ ']' ∧ c ≠ '\x7d' := by
  cases h with
  | atom hatom =>
    obtain ⟨c, rest, rfl, hc⟩ := hatom.head
    refine ⟨c, rest, rfl, ?_, ?_, ?_⟩
    · rw [← Bool.not_eq_true]
      intro hblank
      have hblanks : c ∈ delimiters := by
        simp only [isJsonBlank, Bool.or_eq_true, beq_iff_eq] at hblank
        rcases hblank with ((rfl | rfl) | rfl) | rfl <;> decide
      exact hc hblanks
    · rintro rfl
      exact hc (by decide)
    · rintro rfl
      exact hc (by decide)
  | str hstring =>
    cases hstring with
    | quoted _ => exact ⟨'"', _, rfl, by decide, by decide, by decide⟩
  | arr _ => exact ⟨'[', _, rfl, by decide, by decide, by decide⟩
  | obj _ => exact ⟨'\x7b', _, rfl, by decide, by decide, by decide⟩

theorem skipBlanks_writes (hblanks : IsBlanks blanks) (h : Writes s v) :
    skipBlanks (blanks ++ s ++ rest) = s ++ rest := by
  obtain ⟨c, t, rfl, hc, -, -⟩ := h.head
  rw [List.append_assoc]
  exact skipBlanks_append hblanks hc

theorem readValue_of_atom (h : WritesAtom s v) (hrest : EndsNumber rest) :
    readValue (fuel + 1) deeper (s ++ rest) = .ok (v, rest) := by
  obtain ⟨c, t, rfl, hc⟩ := h.head
  rw [List.cons_append, readValue_atom hc, ← List.cons_append, readAtom_of_writes h hrest]
  rfl

theorem readValue_of_string {text : Text} (h : WritesString s text) :
    readValue (fuel + 1) deeper (s ++ rest) = .ok (.str text, rest) := by
  cases h with
  | @quoted inside units hunits =>
    have hread : readString (inside ++ '"' :: rest) = some (textOfUnits units, rest) :=
      readString_eq_some_iff.2 ⟨_, by simp, .quoted hunits⟩
    have hsplit : '"' :: inside ++ ['"'] ++ rest = '"' :: (inside ++ '"' :: rest) := by simp
    rw [hsplit, readValue_quote, hread]
    rfl

theorem readFields_error {k : Text} {fault : ReadFault} (hk : readString s = some (k, t))
    (ht : skipBlanks t = ':' :: rest) (h : readValue fuel deeper (skipBlanks rest) = .error fault) :
    readFields (fuel + 1) deeper ('"' :: s) = .error fault := by
  rw [readFields_quote, hk]
  simp only [ht, h]

theorem readFields_last {k behind : Text} (hk : readString s = some (k, t)) (ht : skipBlanks t = ':' :: rest)
    (h : readValue fuel deeper (skipBlanks rest) = .ok (v, behind)) {later : Text}
    (hbehind : skipBlanks behind = '\x7d' :: later) :
    readFields (fuel + 1) deeper ('"' :: s) = .ok ([(k, v)], later) := by
  rw [readFields_quote, hk]
  simp only [ht, h, hbehind]

theorem readFields_more {k behind : Text} (hk : readString s = some (k, t)) (ht : skipBlanks t = ':' :: rest)
    (h : readValue fuel deeper (skipBlanks rest) = .ok (v, behind)) {later : Text}
    (hbehind : skipBlanks behind = ',' :: later) :
    readFields (fuel + 1) deeper ('"' :: s)
      = (readFields fuel deeper (skipBlanks later)).map fun p => ((k, v) :: p.1, p.2) := by
  rw [readFields_quote, hk]
  simp only [ht, h, hbehind]

/-- The parts of a field, as the reader comes to them. -/
structure FieldParts (s k : Text) (v : Json) where
  before : Text
  inside : Text
  middle : Text
  gap : Text
  value : Text
  after : Text
  blank_before : IsBlanks before
  blank_middle : IsBlanks middle
  blank_gap : IsBlanks gap
  blank_after : IsBlanks after
  name : ∀ rest, readString (inside ++ rest) = some (k, rest)
  writes : Writes value v
  whole : s = before ++ '"' :: (inside ++ (middle ++ ':' :: (gap ++ value ++ after)))

theorem WritesField.parts {k : Text} (h : WritesField s (k, v)) : Nonempty (FieldParts s k v) := by
  cases h with
  | @field before key middle gap value after _ _ hbefore hkey hmiddle hgap hwrites hafter =>
    cases hkey with
    | @quoted inside units hunits =>
      have hname : ∀ rest, readString (inside ++ ['"'] ++ rest) = some (textOfUnits units, rest) := by
        intro rest
        exact readString_eq_some_iff.2 ⟨_, by simp, .quoted hunits⟩
      exact ⟨⟨before, inside ++ ['"'], middle, gap, value, after, hbefore, hmiddle, hgap, hafter, hname, hwrites,
        by simp⟩⟩

namespace FieldParts

variable {k tail : Text}

theorem skipBlanks_eq (p : FieldParts s k v) : skipBlanks (s ++ tail)
    = '"' :: (p.inside ++ (p.middle ++ ':' :: (p.gap ++ p.value ++ (p.after ++ tail)))) := by
  have hsplit : s ++ tail
      = p.before ++ '"' :: (p.inside ++ (p.middle ++ ':' :: (p.gap ++ p.value ++ (p.after ++ tail)))) :=
    (congrArg (· ++ tail) p.whole).trans (by simp)
  rw [hsplit]
  exact skipBlanks_append p.blank_before rfl

theorem length_value (p : FieldParts s k v) : p.value.length + 2 ≤ s.length := by
  have hlen := congrArg List.length p.whole
  simp only [List.length_append, List.length_cons] at hlen
  omega

theorem readFields_error (p : FieldParts s k v) {fault : ReadFault}
    (h : readValue fuel deeper (p.value ++ (p.after ++ tail)) = .error fault) :
    readFields (fuel + 1) deeper (skipBlanks (s ++ tail)) = .error fault := by
  rw [p.skipBlanks_eq]
  refine Json.readFields_error (p.name _) (skipBlanks_append p.blank_middle rfl) ?_
  rw [skipBlanks_writes p.blank_gap p.writes]
  exact h

theorem readFields_last (p : FieldParts s k v)
    (h : readValue fuel deeper (p.value ++ (p.after ++ '\x7d' :: rest)) = .ok (v, p.after ++ '\x7d' :: rest)) :
    readFields (fuel + 1) deeper (skipBlanks (s ++ '\x7d' :: rest)) = .ok ([(k, v)], rest) := by
  rw [p.skipBlanks_eq]
  refine Json.readFields_last (p.name _) (skipBlanks_append p.blank_middle rfl) ?_
    (skipBlanks_append p.blank_after rfl)
  rw [skipBlanks_writes p.blank_gap p.writes]
  exact h

theorem readFields_more (p : FieldParts s k v)
    (h : readValue fuel deeper (p.value ++ (p.after ++ ',' :: rest)) = .ok (v, p.after ++ ',' :: rest)) :
    readFields (fuel + 1) deeper (skipBlanks (s ++ ',' :: rest))
      = (readFields fuel deeper (skipBlanks rest)).map fun q => ((k, v) :: q.1, q.2) := by
  rw [p.skipBlanks_eq]
  refine Json.readFields_more (p.name _) (skipBlanks_append p.blank_middle rfl) ?_
    (skipBlanks_append p.blank_after rfl)
  rw [skipBlanks_writes p.blank_gap p.writes]
  exact h

end FieldParts

theorem WritesItems.blank (h : WritesItems s []) : IsBlanks s := by
  cases h with
  | none hblanks => exact hblanks

theorem WritesFields.blank (h : WritesFields s []) : IsBlanks s := by
  cases h with
  | none hblanks => exact hblanks

/-- An array that is not empty has an item in front, an object that is not empty a name. -/
theorem WritesItems.head (h : WritesItems s (v :: items)) (rest : Text) :
    ∃ c t, skipBlanks (s ++ rest) = c :: t ∧ c ≠ ']' := by
  cases h with
  | @last before text after _ hbefore hwrites hafter =>
    obtain ⟨c, t, rfl, hblank, hc, -⟩ := hwrites.head
    refine ⟨c, t ++ (after ++ rest), ?_, hc⟩
    rw [List.append_assoc (before ++ c :: t), skipBlanks_writes hbefore hwrites]
    rfl
  | @more before text after others _ w items hbefore hwrites hafter hothers =>
    obtain ⟨c, t, rfl, hblank, hc, -⟩ := hwrites.head
    refine ⟨c, t ++ (after ++ ',' :: others ++ rest), ?_, hc⟩
    rw [List.append_assoc, List.append_assoc (before ++ c :: t), skipBlanks_writes hbefore hwrites]
    simp

theorem WritesFields.head {field : Text × Json} (h : WritesFields s (field :: fields)) (rest : Text) :
    ∃ t, skipBlanks (s ++ rest) = '"' :: t := by
  obtain ⟨k, v⟩ := field
  cases h with
  | last hfield =>
    obtain ⟨p⟩ := hfield.parts
    exact ⟨_, p.skipBlanks_eq⟩
  | more hfield hothers =>
    obtain ⟨p⟩ := hfield.parts
    rw [List.append_assoc]
    exact ⟨_, p.skipBlanks_eq⟩

/-- A word, a number or a string has nothing inside that could be too deep. -/
theorem readValue_of_leaf (h : WritesAtom s v ∨ ∃ text, v = .str text ∧ WritesString s text)
    (hrest : EndsNumber rest) (hfuel : 2 * s.length ≤ fuel) :
    readValue fuel deeper (s ++ rest) = if v.depth ≤ deeper then .ok (v, rest) else .error .tooDeep := by
  rcases h with hatom | ⟨text, rfl, hstring⟩
  · obtain ⟨c, t, rfl, -⟩ := hatom.head
    obtain ⟨fuel, rfl⟩ : ∃ n, fuel = n + 1 := ⟨fuel - 1, by simp only [List.length_cons] at hfuel; omega⟩
    rw [if_pos (by rw [hatom.depth_eq]; exact Nat.zero_le _)]
    exact readValue_of_atom hatom hrest
  · have hpos : 0 < s.length := by
      cases hstring with
      | quoted _ => simp
    obtain ⟨fuel, rfl⟩ : ∃ n, fuel = n + 1 := ⟨fuel - 1, by omega⟩
    have hdepth : (Json.str text).depth ≤ deeper := Nat.zero_le _
    rw [if_pos hdepth]
    exact readValue_of_string hstring

/-- What is not too deep in front leaves it to the rest whether all of it is. -/
theorem map_within {α β : Type} {front behind : Nat} (h : front ≤ deeper) {p : α × Text} {f : α × Text → β × Text} :
    (if behind ≤ deeper then .ok p else .error .tooDeep : Reading α).map f
      = if max front behind ≤ deeper then .ok (f p) else .error .tooDeep := by
  by_cases hbehind : behind ≤ deeper
  · rw [if_pos hbehind, if_pos (Nat.max_le.2 ⟨h, hbehind⟩)]
    rfl
  · rw [if_neg hbehind, if_neg fun hmax => hbehind (Nat.max_le.1 hmax).2]
    rfl

mutual

theorem readValue_of_writes : ∀ {v : Json} {s rest : Text} {fuel deeper : Nat}, Writes s v →
    EndsNumber rest → 2 * s.length ≤ fuel →
      readValue fuel deeper (s ++ rest) = if v.depth ≤ deeper then .ok (v, rest) else .error .tooDeep
  | .arr items, s, rest, fuel, deeper, h, hrest, hfuel => by
    cases h with
    | atom hatom => exact readValue_of_leaf (.inl hatom) hrest hfuel
    | @arr inside _ hitems =>
      simp only [List.length_append, List.length_cons, List.length_nil] at hfuel
      obtain ⟨fuel, rfl⟩ : ∃ n, fuel = n + 1 := ⟨fuel - 1, by omega⟩
      have hsplit : '[' :: inside ++ [']'] ++ rest = '[' :: (inside ++ ']' :: rest) := by simp
      rw [hsplit, depth]
      cases deeper with
      | zero => rw [readValue_bracket_zero, if_neg (by omega)]
      | succ deeper =>
        cases items with
        | nil =>
          rw [readValue_bracket_nil (skipBlanks_append hitems.blank rfl), depthOfItems, if_pos (by omega)]
        | cons v items =>
          have hinside : readItems fuel deeper (skipBlanks (inside ++ ']' :: rest)) = _ :=
            readItems_of_writes hitems (List.cons_ne_nil _ _) (by omega)
          obtain ⟨c, t, hhead, hc⟩ := hitems.head (']' :: rest)
          rw [readValue_bracket hhead hc, ← hhead, hinside]
          simp only [Nat.add_le_add_iff_right]
          split <;> rfl
  | .obj fields, s, rest, fuel, deeper, h, hrest, hfuel => by
    cases h with
    | atom hatom => exact readValue_of_leaf (.inl hatom) hrest hfuel
    | @obj inside _ hfields =>
      simp only [List.length_append, List.length_cons, List.length_nil] at hfuel
      obtain ⟨fuel, rfl⟩ : ∃ n, fuel = n + 1 := ⟨fuel - 1, by omega⟩
      have hsplit : '\x7b' :: inside ++ ['\x7d'] ++ rest = '\x7b' :: (inside ++ '\x7d' :: rest) := by simp
      rw [hsplit, depth]
      cases deeper with
      | zero => rw [readValue_brace_zero, if_neg (by omega)]
      | succ deeper =>
        cases fields with
        | nil =>
          rw [readValue_brace_nil (skipBlanks_append hfields.blank rfl), depthOfFields, if_pos (by omega)]
        | cons field fields =>
          have hinside : readFields fuel deeper (skipBlanks (inside ++ '\x7d' :: rest)) = _ :=
            readFields_of_writes hfields (List.cons_ne_nil _ _) (by omega)
          obtain ⟨t, hhead⟩ := hfields.head ('\x7d' :: rest)
          rw [readValue_brace hhead (by decide), ← hhead, hinside]
          simp only [Nat.add_le_add_iff_right]
          split <;> rfl
  | .str text, s, rest, fuel, deeper, h, hrest, hfuel => by
    cases h with
    | atom hatom => exact readValue_of_leaf (.inl hatom) hrest hfuel
    | str hstring => exact readValue_of_leaf (.inr ⟨text, rfl, hstring⟩) hrest hfuel
  | .null, s, rest, fuel, deeper, h, hrest, hfuel => by
    cases h with
    | atom hatom => exact readValue_of_leaf (.inl hatom) hrest hfuel
  | .bool b, s, rest, fuel, deeper, h, hrest, hfuel => by
    cases h with
    | atom hatom => exact readValue_of_leaf (.inl hatom) hrest hfuel
  | .int n, s, rest, fuel, deeper, h, hrest, hfuel => by
    cases h with
    | atom hatom => exact readValue_of_leaf (.inl hatom) hrest hfuel
  | .real r, s, rest, fuel, deeper, h, hrest, hfuel => by
    cases h with
    | atom hatom => exact readValue_of_leaf (.inl hatom) hrest hfuel

theorem readItems_of_writes : ∀ {items : List Json} {s rest : Text} {fuel deeper : Nat},
    WritesItems s items → items ≠ [] → 2 * s.length + 1 ≤ fuel →
      readItems fuel deeper (skipBlanks (s ++ ']' :: rest))
        = if depthOfItems items ≤ deeper then .ok (items, rest) else .error .tooDeep
  | [], s, rest, fuel, deeper, h, hne, hfuel => absurd rfl hne
  | [v], s, rest, fuel, deeper, h, hne, hfuel => by
    obtain ⟨fuel, rfl⟩ : ∃ n, fuel = n + 1 := ⟨fuel - 1, by omega⟩
    cases h with
    | @last before text after _ hbefore hwrites hafter =>
      simp only [List.length_append] at hfuel
      have hsplit : before ++ text ++ after ++ ']' :: rest = before ++ text ++ (after ++ ']' :: rest) := by simp
      have hread : readValue fuel deeper (text ++ (after ++ ']' :: rest)) = _ :=
        readValue_of_writes hwrites (hafter.endsNumber (endsNumber_cons rfl)) (by omega)
      rw [hsplit, skipBlanks_writes hbefore hwrites, depthOfItems, depthOfItems, Nat.max_zero]
      by_cases hdepth : v.depth ≤ deeper
      · rw [if_pos hdepth] at hread ⊢
        exact readItems_last hread (skipBlanks_append hafter rfl)
      · rw [if_neg hdepth] at hread ⊢
        exact readItems_error hread
  | v :: w :: items, s, rest, fuel, deeper, h, hne, hfuel => by
    obtain ⟨fuel, rfl⟩ : ∃ n, fuel = n + 1 := ⟨fuel - 1, by omega⟩
    cases h with
    | @more before text after others _ _ _ hbefore hwrites hafter hothers =>
      simp only [List.length_append, List.length_cons] at hfuel
      have hsplit : before ++ text ++ after ++ ',' :: others ++ ']' :: rest
          = before ++ text ++ (after ++ ',' :: (others ++ ']' :: rest)) := by simp
      have hread : readValue fuel deeper (text ++ (after ++ ',' :: (others ++ ']' :: rest))) = _ :=
        readValue_of_writes hwrites (hafter.endsNumber (endsNumber_cons rfl)) (by omega)
      have hlater : readItems fuel deeper (skipBlanks (others ++ ']' :: rest)) = _ :=
        readItems_of_writes hothers (List.cons_ne_nil _ _) (by omega)
      rw [hsplit, skipBlanks_writes hbefore hwrites, depthOfItems]
      by_cases hdepth : v.depth ≤ deeper
      · rw [if_pos hdepth] at hread
        rw [readItems_more hread (skipBlanks_append hafter rfl), hlater, map_within hdepth]
      · rw [if_neg hdepth] at hread
        rw [readItems_error hread, if_neg fun hmax => hdepth (Nat.max_le.1 hmax).1]

theorem readFields_of_writes : ∀ {fields : List (Text × Json)} {s rest : Text} {fuel deeper : Nat},
    WritesFields s fields → fields ≠ [] → 2 * s.length + 1 ≤ fuel →
      readFields fuel deeper (skipBlanks (s ++ '\x7d' :: rest))
        = if depthOfFields fields ≤ deeper then .ok (fields, rest) else .error .tooDeep
  | [], s, rest, fuel, deeper, h, hne, hfuel => absurd rfl hne
  | [(k, v)], s, rest, fuel, deeper, h, hne, hfuel => by
    obtain ⟨fuel, rfl⟩ : ∃ n, fuel = n + 1 := ⟨fuel - 1, by omega⟩
    cases h with
    | last hfield =>
      obtain ⟨p⟩ := hfield.parts
      have hlen := p.length_value
      have hread : readValue fuel deeper (p.value ++ (p.after ++ '\x7d' :: rest)) = _ :=
        readValue_of_writes p.writes (p.blank_after.endsNumber (endsNumber_cons rfl)) (by omega)
      rw [depthOfFields, depthOfFields, Nat.max_zero]
      by_cases hdepth : v.depth ≤ deeper
      · rw [if_pos hdepth] at hread ⊢
        exact p.readFields_last hread
      · rw [if_neg hdepth] at hread ⊢
        exact p.readFields_error hread
  | (k, v) :: next :: fields, s, rest, fuel, deeper, h, hne, hfuel => by
    obtain ⟨fuel, rfl⟩ : ∃ n, fuel = n + 1 := ⟨fuel - 1, by omega⟩
    cases h with
    | @more text others _ _ _ hfield hothers =>
      simp only [List.length_append, List.length_cons] at hfuel
      obtain ⟨p⟩ := hfield.parts
      have hlen := p.length_value
      have hsplit : text ++ ',' :: others ++ '\x7d' :: rest = text ++ ',' :: (others ++ '\x7d' :: rest) := by simp
      have hread : readValue fuel deeper (p.value ++ (p.after ++ ',' :: (others ++ '\x7d' :: rest))) = _ :=
        readValue_of_writes p.writes (p.blank_after.endsNumber (endsNumber_cons rfl)) (by omega)
      have hlater : readFields fuel deeper (skipBlanks (others ++ '\x7d' :: rest)) = _ :=
        readFields_of_writes hothers (List.cons_ne_nil _ _) (by omega)
      rw [hsplit, depthOfFields]
      by_cases hdepth : v.depth ≤ deeper
      · rw [if_pos hdepth] at hread
        rw [p.readFields_more hread, hlater, map_within hdepth]
      · rw [if_neg hdepth] at hread
        rw [p.readFields_error hread, if_neg fun hmax => hdepth (Nat.max_le.1 hmax).1]

end

/-- A document has the value that it writes, unless that is too deep. -/
theorem read_of_document (h : Document s v) (limit : Nat) :
    read s limit = if v.depth ≤ limit then .ok v else .error .tooDeep := by
  cases h with
  | @value before text after _ hbefore hwrites hafter =>
    have hread : readValue (2 * (before ++ text ++ after).length + 2) limit (text ++ after) = _ :=
      readValue_of_writes hwrites (by simpa using hafter.endsNumber endsNumber_nil) (by simp; omega)
    rw [read, skipBlanks_writes hbefore hwrites, hread]
    by_cases hdepth : v.depth ≤ limit
    · simp [if_pos hdepth, skipBlanks_eq_nil_iff.2 hafter]
    · simp [if_neg hdepth]

/-! ### Nothing else is read -/

theorem ofOption_eq_ok_iff {α : Type} {found : Option (α × Text)} {p : α × Text} :
    ofOption found = .ok p ↔ found = some p := by
  cases found <;> simp [ofOption]

theorem map_eq_ok_iff {α β : Type} {reading : Reading α} {f : α × Text → β × Text} {p : β × Text} :
    reading.map f = .ok p ↔ ∃ q, reading = .ok q ∧ f q = p := by
  cases reading <;> simp [Except.map]

mutual

theorem writes_of_readValue : ∀ {fuel deeper : Nat} {s rest : Text} {v : Json},
    readValue fuel deeper s = .ok (v, rest) → ∃ text, s = text ++ rest ∧ Writes text v ∧ v.depth ≤ deeper
  | 0, deeper, s, rest, v, h => by simp [readValue] at h
  | fuel + 1, deeper, s, rest, v, h => by
    unfold readValue at h
    split at h
    · obtain ⟨⟨text, behind⟩, hread, heq⟩ := Option.map_eq_some_iff.1 (ofOption_eq_ok_iff.1 h)
      obtain ⟨rfl, rfl⟩ := Prod.mk.inj heq
      obtain ⟨written, hwritten, hstring⟩ := readString_eq_some_iff.1 hread
      exact ⟨written, hwritten, .str hstring, Nat.zero_le _⟩
    · simp at h
    · next s deeper =>
      obtain ⟨blanks, hblanks, hs⟩ := exists_skipped s
      split at h
      · next behind hskip =>
        obtain ⟨rfl, rfl⟩ := Prod.mk.inj (Except.ok.inj h)
        rw [hskip] at hs
        exact ⟨'[' :: blanks ++ [']'], by rw [hs]; simp, .arr (.none hblanks), by simp [depth, depthOfItems]⟩
      · obtain ⟨⟨items, behind⟩, hread, heq⟩ := map_eq_ok_iff.1 h
        obtain ⟨rfl, rfl⟩ := Prod.mk.inj heq
        obtain ⟨text, htext, hitems, -, hdepth⟩ := writes_of_readItems hread hblanks
        exact ⟨'[' :: text ++ [']'], by rw [hs, htext]; simp, .arr hitems, Nat.succ_le_succ hdepth⟩
    · simp at h
    · next s deeper =>
      obtain ⟨blanks, hblanks, hs⟩ := exists_skipped s
      split at h
      · next behind hskip =>
        obtain ⟨rfl, rfl⟩ := Prod.mk.inj (Except.ok.inj h)
        rw [hskip] at hs
        exact ⟨'\x7b' :: blanks ++ ['\x7d'], by rw [hs]; simp, .obj (.none hblanks),
          by simp [depth, depthOfFields]⟩
      · obtain ⟨⟨fields, behind⟩, hread, heq⟩ := map_eq_ok_iff.1 h
        obtain ⟨rfl, rfl⟩ := Prod.mk.inj heq
        obtain ⟨text, htext, hfields, -, hdepth⟩ := writes_of_readFields hread hblanks
        exact ⟨'\x7b' :: text ++ ['\x7d'], by rw [hs, htext]; simp, .obj hfields, Nat.succ_le_succ hdepth⟩
    · obtain ⟨text, htext, hatom⟩ := writesAtom_of_readAtom (ofOption_eq_ok_iff.1 h)
      exact ⟨text, htext, .atom hatom, by rw [hatom.depth_eq]; exact Nat.zero_le _⟩

/-- The blanks in front of an item belong to it. -/
theorem writes_of_readItems : ∀ {fuel deeper : Nat} {s rest blanks : Text} {items : List Json},
    readItems fuel deeper s = .ok (items, rest) → IsBlanks blanks →
      ∃ text, blanks ++ s = text ++ ']' :: rest ∧ WritesItems text items ∧ items ≠ [] ∧
        depthOfItems items ≤ deeper
  | 0, deeper, s, rest, blanks, items, h, hblanks => by simp [readItems] at h
  | fuel + 1, deeper, s, rest, blanks, items, h, hblanks => by
    unfold readItems at h
    split at h
    · simp at h
    · next v behind hread =>
      obtain ⟨text, rfl, hwrites, hdepth⟩ := writes_of_readValue hread
      obtain ⟨after, hafter, hbehind⟩ := exists_skipped behind
      split at h
      · next later hskip =>
        obtain ⟨rfl, rfl⟩ := Prod.mk.inj (Except.ok.inj h)
        rw [hskip] at hbehind
        exact ⟨blanks ++ text ++ after, by rw [hbehind]; simp, .last hblanks hwrites hafter, by simp,
          by simpa [depthOfItems] using hdepth⟩
      · next later hskip =>
        obtain ⟨⟨others, end_⟩, hothers, heq⟩ := map_eq_ok_iff.1 h
        obtain ⟨rfl, rfl⟩ := Prod.mk.inj heq
        obtain ⟨gap, hgap, hlater⟩ := exists_skipped later
        obtain ⟨moreText, hmore, hitems, hne, hdepths⟩ := writes_of_readItems hothers hgap
        obtain ⟨w, items, rfl⟩ := List.exists_cons_of_ne_nil hne
        rw [hskip, hlater, hmore] at hbehind
        exact ⟨blanks ++ text ++ after ++ ',' :: moreText, by rw [hbehind]; simp,
          .more hblanks hwrites hafter hitems, by simp, Nat.max_le.2 ⟨hdepth, hdepths⟩⟩
      · simp at h

theorem writes_of_readFields : ∀ {fuel deeper : Nat} {s rest blanks : Text} {fields : List (Text × Json)},
    readFields fuel deeper s = .ok (fields, rest) → IsBlanks blanks →
      ∃ text, blanks ++ s = text ++ '\x7d' :: rest ∧ WritesFields text fields ∧ fields ≠ [] ∧
        depthOfFields fields ≤ deeper
  | 0, deeper, s, rest, blanks, fields, h, hblanks => by simp [readFields] at h
  | fuel + 1, deeper, s, rest, blanks, fields, h, hblanks => by
    unfold readFields at h
    split at h
    · next s =>
      split at h
      · simp at h
      · next key named hname =>
        obtain ⟨name, hs, hstring⟩ := readString_eq_some_iff.1 hname
        obtain ⟨middle, hmiddle, hnamed⟩ := exists_skipped named
        split at h
        · next valued hcolon =>
          obtain ⟨gap, hgap, hvalued⟩ := exists_skipped valued
          split at h
          · simp at h
          · next v behind hread =>
            obtain ⟨text, htext, hwrites, hdepth⟩ := writes_of_readValue hread
            obtain ⟨after, hafter, hbehind⟩ := exists_skipped behind
            have hfield : WritesField (blanks ++ name ++ middle ++ ':' :: (gap ++ text ++ after)) (key, v) :=
              .field hblanks hstring hmiddle hgap hwrites hafter
            rw [hs, hnamed, hcolon, hvalued, htext]
            split at h
            · next later hskip =>
              obtain ⟨rfl, rfl⟩ := Prod.mk.inj (Except.ok.inj h)
              rw [hskip] at hbehind
              exact ⟨_, by rw [hbehind]; simp, .last hfield, by simp, by simpa [depthOfFields] using hdepth⟩
            · next later hskip =>
              obtain ⟨⟨others, end_⟩, hothers, heq⟩ := map_eq_ok_iff.1 h
              obtain ⟨rfl, rfl⟩ := Prod.mk.inj heq
              obtain ⟨next, hnext, hlater⟩ := exists_skipped later
              obtain ⟨moreText, hmore, hfields, hne, hdepths⟩ := writes_of_readFields hothers hnext
              obtain ⟨field, fields, rfl⟩ := List.exists_cons_of_ne_nil hne
              rw [hskip, hlater, hmore] at hbehind
              exact ⟨_, by rw [hbehind]; simp, .more hfield hfields, by simp, Nat.max_le.2 ⟨hdepth, hdepths⟩⟩
            · simp at h
        · simp at h
    · simp at h

end

theorem document_of_read {limit : Nat} (h : read s limit = .ok v) : Document s v ∧ v.depth ≤ limit := by
  unfold read at h
  split at h
  · next value rest hread =>
    split at h
    · next hempty =>
      obtain rfl := Except.ok.inj h
      obtain ⟨before, hbefore, hs⟩ := exists_skipped s
      obtain ⟨text, htext, hwrites, hdepth⟩ := writes_of_readValue hread
      have hafter : IsBlanks rest := skipBlanks_eq_nil_iff.1 (List.isEmpty_iff.1 hempty)
      rw [hs, htext, ← List.append_assoc]
      exact ⟨.value hbefore hwrites hafter, hdepth⟩
    · simp at h
  · simp at h

/-- The reader gives a value exactly for the documents that are not too deep, and it is the one they write. -/
theorem read_eq_ok_iff {limit : Nat} : read s limit = .ok v ↔ Document s v ∧ v.depth ≤ limit := by
  constructor
  · exact document_of_read
  · rintro ⟨hdocument, hdepth⟩
    rw [read_of_document hdocument, if_pos hdepth]

end Json

end SuppressionAudit

import SuppressionAudit.Proofs.Json.Readings

/-!
# Nesting

How deep a text is nested can be told from its brackets and braces alone, whether or not it is a document.
For a document it is the depth of its value, and the reader gives up for depth on no text that is not nested
deeper than it reads.
-/

namespace SuppressionAudit

namespace Json

/-! ### Brackets and braces that are open -/

mutual

/-- How many brackets and braces are open at most in a text in front of which some are. -/
def deepest : Nat → Text → Nat
  | opened, [] => opened
  | opened, c :: s =>
    if c = '"' then deepestInString opened s
    else if c = '[' ∨ c = '\x7b' then deepest (opened + 1) s
    else if c = ']' ∨ c = '\x7d' then max opened (deepest (opened - 1) s)
    else deepest opened s

/-- Inside a string brackets and braces are characters like all others. -/
def deepestInString : Nat → Text → Nat
  | opened, [] => opened
  | opened, c :: s =>
    if c = '"' then deepest opened s
    else if c = '\\' then deepestAfterSlash opened s
    else deepestInString opened s

def deepestAfterSlash : Nat → Text → Nat
  | opened, [] => opened
  | opened, _ :: s => deepestInString opened s

end

/-- How deep a text is nested. -/
def nesting (s : Text) : Nat := deepest 0 s

variable {s t rest inside : Text} {units : List Nat} {v : Json} {c : Char} {opened fuel deeper : Nat}

mutual

theorem le_deepest : ∀ {s : Text} {opened : Nat}, opened ≤ deepest opened s
  | [], opened => by rw [deepest]
  | c :: s, opened => by
    have hmore : opened + 1 ≤ deepest (opened + 1) s := le_deepest
    rw [deepest]
    split
    · exact le_deepestInString
    · split
      · omega
      · split
        · exact Nat.le_max_left _ _
        · exact le_deepest

theorem le_deepestInString : ∀ {s : Text} {opened : Nat}, opened ≤ deepestInString opened s
  | [], opened => by rw [deepestInString]
  | c :: s, opened => by
    rw [deepestInString]
    split
    · exact le_deepest
    · split
      · exact le_deepestAfterSlash
      · exact le_deepestInString

theorem le_deepestAfterSlash : ∀ {s : Text} {opened : Nat}, opened ≤ deepestAfterSlash opened s
  | [], opened => by rw [deepestAfterSlash]
  | c :: s, opened => by
    rw [deepestAfterSlash]
    exact le_deepestInString

end

theorem deepest_bracket : deepest opened ('[' :: s) = deepest (opened + 1) s := by
  rw [deepest, if_neg (by decide), if_pos (by decide)]

theorem deepest_brace : deepest opened ('\x7b' :: s) = deepest (opened + 1) s := by
  rw [deepest, if_neg (by decide), if_pos (by decide)]

theorem deepest_closing (h : c = ']' ∨ c = '\x7d') :
    deepest (opened + 1) (c :: s) = max (opened + 1) (deepest opened s) := by
  rcases h with rfl | rfl
  · rw [deepest, if_neg (by decide), if_neg (by decide), if_pos (by decide), Nat.add_sub_cancel]
  · rw [deepest, if_neg (by decide), if_neg (by decide), if_pos (by decide), Nat.add_sub_cancel]

theorem deepest_quote : deepest opened ('"' :: s) = deepestInString opened s := by
  rw [deepest, if_pos rfl]

/-- The characters that open and close strings, arrays and objects. -/
def brackets : List Char := ['"', '[', '\x7b', ']', '\x7d']

theorem deepest_cons (hc : c ∉ brackets) : deepest opened (c :: s) = deepest opened s := by
  simp only [brackets, List.mem_cons, List.not_mem_nil, or_false, not_or] at hc
  obtain ⟨hquote, hbracket, hbrace, hbracketEnd, hbraceEnd⟩ := hc
  rw [deepest, if_neg hquote, if_neg (not_or.2 ⟨hbracket, hbrace⟩), if_neg (not_or.2 ⟨hbracketEnd, hbraceEnd⟩)]

theorem deepest_append (h : ∀ c ∈ s, c ∉ brackets) : deepest opened (s ++ rest) = deepest opened rest := by
  induction s with
  | nil => rfl
  | cons c s ih =>
    obtain ⟨hc, hs⟩ := List.forall_mem_cons.1 h
    rw [List.cons_append, deepest_cons hc, ih hs]

theorem deepest_blanks (h : IsBlanks s) : deepest opened (s ++ rest) = deepest opened rest := by
  refine deepest_append fun c hc => ?_
  have hblank := h c hc
  simp only [isJsonBlank, Bool.or_eq_true, beq_iff_eq] at hblank
  rcases hblank with ((rfl | rfl) | rfl) | rfl <;> decide

theorem deepest_skipBlanks : deepest opened (skipBlanks s) = deepest opened s := by
  obtain ⟨blanks, hblanks, hs⟩ := exists_skipped s
  conv_rhs => rw [hs]
  exact (deepest_blanks hblanks).symm

theorem deepest_atom (h : WritesAtom s v) : deepest opened (s ++ rest) = deepest opened rest := by
  have hnumber : IsNumber s → ∀ c ∈ s, c ∉ brackets := by
    intro hnumber c hc hmem
    have hother : brackets.all (fun d => !isNumberChar d) = true := by decide
    exact absurd (hnumber.chars c hc) (by simpa using List.all_eq_true.1 hother c hmem)
  refine deepest_append ?_
  cases h with
  | word hword =>
    have hwords : ∀ p ∈ wordValues, p.1.all (fun c => !brackets.contains c) = true := by decide
    intro c hc
    simpa using List.all_eq_true.1 (hwords _ hword) c hc
  | int hwhole => exact hnumber (isNumber_of_whole hwhole)
  | real hreal => exact hnumber (isNumber_of_real hreal)

theorem hex_chars {h₁ h₂ h₃ h₄ : Char} {n : Nat} (h : hexUnit? h₁ h₂ h₃ h₄ = some n) :
    ∀ c ∈ [h₁, h₂, h₃, h₄], c ≠ '"' ∧ c ≠ '\\' := by
  have hvalue : ∀ {c : Char} {m : Nat}, hexValue? c = some m → c ≠ '"' ∧ c ≠ '\\' := by
    intro c m hc
    constructor
    · rintro rfl
      exact absurd hc (by simp [hexValue?])
    · rintro rfl
      exact absurd hc (by simp [hexValue?])
  unfold hexUnit? at h
  obtain ⟨a, ha, h⟩ := Option.bind_eq_some_iff.1 h
  obtain ⟨b, hb, h⟩ := Option.bind_eq_some_iff.1 h
  obtain ⟨c, hc, h⟩ := Option.bind_eq_some_iff.1 h
  obtain ⟨d, hd, -⟩ := Option.bind_eq_some_iff.1 h
  simp only [List.forall_mem_cons, List.not_mem_nil, false_imp_iff, implies_true, and_true]
  exact ⟨hvalue ha, hvalue hb, hvalue hc, hvalue hd⟩

theorem deepestInString_cons (hquote : c ≠ '"') (hslash : c ≠ '\\') :
    deepestInString opened (c :: s) = deepestInString opened s := by
  rw [deepestInString, if_neg hquote, if_neg hslash]

theorem deepestInString_slash : deepestInString opened ('\\' :: c :: s) = deepestInString opened s := by
  rw [deepestInString, if_neg (by decide), if_pos rfl, deepestAfterSlash]

theorem deepestInString_units (h : WritesUnits inside units) :
    deepestInString opened (inside ++ '"' :: rest) = deepest opened rest := by
  induction h with
  | done => rw [List.nil_append, deepestInString, if_pos rfl]
  | plain hquote hslash _ _ ih => rw [List.cons_append, deepestInString_cons hquote hslash, ih]
  | short _ _ ih => rw [List.cons_append, List.cons_append, deepestInString_slash, ih]
  | hex hunit _ ih =>
    have hchars := hex_chars hunit
    simp only [List.forall_mem_cons, List.not_mem_nil, false_imp_iff, implies_true, and_true] at hchars
    obtain ⟨⟨hq₁, hs₁⟩, ⟨hq₂, hs₂⟩, ⟨hq₃, hs₃⟩, hq₄, hs₄⟩ := hchars
    simp only [List.cons_append]
    rw [deepestInString_slash, deepestInString_cons hq₁ hs₁, deepestInString_cons hq₂ hs₂,
      deepestInString_cons hq₃ hs₃, deepestInString_cons hq₄ hs₄, ih]

theorem deepest_string {text : Text} (h : WritesString s text) : deepest opened (s ++ rest) = deepest opened rest := by
  cases h with
  | @quoted inside units hunits =>
    have hsplit : '"' :: inside ++ ['"'] ++ rest = '"' :: (inside ++ '"' :: rest) := by simp
    rw [hsplit, deepest_quote, deepestInString_units hunits]

/-! ### Values -/

theorem deepest_leaf (h : WritesAtom s v ∨ ∃ text, v = .str text ∧ WritesString s text) :
    deepest opened (s ++ rest) = max (opened + v.depth) (deepest opened rest) := by
  have hle : opened ≤ deepest opened rest := le_deepest
  rcases h with hatom | ⟨text, rfl, hstring⟩
  · rw [deepest_atom hatom, hatom.depth_eq, Nat.add_zero, Nat.max_eq_right hle]
  · rw [deepest_string hstring]
    exact (Nat.max_eq_right hle).symm

mutual

theorem deepest_writes : ∀ {v : Json} {s rest : Text} {opened : Nat}, Writes s v →
    deepest opened (s ++ rest) = max (opened + v.depth) (deepest opened rest)
  | .arr items, s, rest, opened, h => by
    cases h with
    | atom hatom => exact deepest_leaf (.inl hatom)
    | @arr inside _ hitems =>
      have hsplit : '[' :: inside ++ [']'] ++ rest = '[' :: (inside ++ ']' :: rest) := by simp
      have hclosing : deepest (opened + 1) (']' :: rest) = _ := deepest_closing (.inl rfl)
      rw [hsplit, deepest_bracket, deepest_items hitems, hclosing, depth]
      omega
  | .obj fields, s, rest, opened, h => by
    cases h with
    | atom hatom => exact deepest_leaf (.inl hatom)
    | @obj inside _ hfields =>
      have hsplit : '\x7b' :: inside ++ ['\x7d'] ++ rest = '\x7b' :: (inside ++ '\x7d' :: rest) := by simp
      have hclosing : deepest (opened + 1) ('\x7d' :: rest) = _ := deepest_closing (.inr rfl)
      rw [hsplit, deepest_brace, deepest_fields hfields, hclosing, depth]
      omega
  | .str text, s, rest, opened, h => by
    cases h with
    | atom hatom => exact deepest_leaf (.inl hatom)
    | str hstring => exact deepest_leaf (.inr ⟨text, rfl, hstring⟩)
  | .null, s, rest, opened, h => by
    cases h with
    | atom hatom => exact deepest_leaf (.inl hatom)
  | .bool b, s, rest, opened, h => by
    cases h with
    | atom hatom => exact deepest_leaf (.inl hatom)
  | .int n, s, rest, opened, h => by
    cases h with
    | atom hatom => exact deepest_leaf (.inl hatom)
  | .real r, s, rest, opened, h => by
    cases h with
    | atom hatom => exact deepest_leaf (.inl hatom)

theorem deepest_items : ∀ {items : List Json} {s rest : Text} {opened : Nat}, WritesItems s items →
    deepest opened (s ++ rest) = max (opened + depthOfItems items) (deepest opened rest)
  | [], s, rest, opened, h => by
    have hle : opened ≤ deepest opened rest := le_deepest
    rw [deepest_blanks h.blank, depthOfItems, Nat.add_zero, Nat.max_eq_right hle]
  | [v], s, rest, opened, h => by
    cases h with
    | @last before text after _ hbefore hwrites hafter =>
      have hsplit : before ++ text ++ after ++ rest = before ++ (text ++ (after ++ rest)) := by simp
      rw [hsplit, deepest_blanks hbefore, deepest_writes hwrites, deepest_blanks hafter, depthOfItems, depthOfItems,
        Nat.max_zero]
  | v :: w :: items, s, rest, opened, h => by
    cases h with
    | @more before text after others _ _ _ hbefore hwrites hafter hothers =>
      have hsplit : before ++ text ++ after ++ ',' :: others ++ rest
          = before ++ (text ++ (after ++ ',' :: (others ++ rest))) := by simp
      rw [hsplit, deepest_blanks hbefore, deepest_writes hwrites, deepest_blanks hafter,
        deepest_cons (by decide), deepest_items hothers]
      have hdepth : depthOfItems (v :: w :: items) = max v.depth (depthOfItems (w :: items)) := rfl
      omega

theorem deepest_fields : ∀ {fields : List (Text × Json)} {s rest : Text} {opened : Nat}, WritesFields s fields →
    deepest opened (s ++ rest) = max (opened + depthOfFields fields) (deepest opened rest)
  | [], s, rest, opened, h => by
    have hle : opened ≤ deepest opened rest := le_deepest
    rw [deepest_blanks h.blank, depthOfFields, Nat.add_zero, Nat.max_eq_right hle]
  | [(k, v)], s, rest, opened, h => by
    cases h with
    | last hfield =>
      cases hfield with
      | @field before key middle gap text after _ _ hbefore hkey hmiddle hgap hwrites hafter =>
        have hsplit : before ++ key ++ middle ++ ':' :: (gap ++ text ++ after) ++ rest
            = before ++ (key ++ (middle ++ ':' :: (gap ++ (text ++ (after ++ rest))))) := by simp
        rw [hsplit, deepest_blanks hbefore, deepest_string hkey, deepest_blanks hmiddle, deepest_cons (by decide),
          deepest_blanks hgap, deepest_writes hwrites, deepest_blanks hafter, depthOfFields, depthOfFields,
          Nat.max_zero]
  | (k, v) :: next :: fields, s, rest, opened, h => by
    cases h with
    | @more text others _ _ _ hfield hothers =>
      cases hfield with
      | @field before key middle gap text after _ _ hbefore hkey hmiddle hgap hwrites hafter =>
        have hsplit : before ++ key ++ middle ++ ':' :: (gap ++ text ++ after) ++ ',' :: others ++ rest
            = before ++ (key ++ (middle ++ ':' :: (gap ++ (text ++ (after ++ ',' :: (others ++ rest)))))) := by simp
        rw [hsplit, deepest_blanks hbefore, deepest_string hkey, deepest_blanks hmiddle, deepest_cons (by decide),
          deepest_blanks hgap, deepest_writes hwrites, deepest_blanks hafter, deepest_cons (by decide),
          deepest_fields hothers]
        have hdepth : depthOfFields ((k, v) :: next :: fields) = max v.depth (depthOfFields (next :: fields)) := rfl
        omega

end

/-- A document is nested as deep as its value. -/
theorem nesting_of_document (h : Document s v) : nesting s = v.depth := by
  cases h with
  | @value before text after _ hbefore hwrites hafter =>
    have hend : deepest 0 after = 0 := by
      have hblanks : deepest 0 (after ++ []) = _ := deepest_blanks hafter
      rw [List.append_nil] at hblanks
      rw [hblanks, deepest]
    rw [nesting, List.append_assoc, deepest_blanks hbefore, deepest_writes hwrites, hend, Nat.zero_add, Nat.max_zero]

/-! ### Giving up -/

theorem map_eq_error_iff {α β : Type} {reading : Reading α} {f : α × Text → β × Text} {fault : ReadFault} :
    reading.map f = .error fault ↔ reading = .error fault := by
  cases reading <;> simp [Except.map]

theorem ofOption_ne_tooDeep {α : Type} {found : Option (α × Text)} : ofOption found ≠ .error .tooDeep := by
  cases found <;> simp [ofOption]

mutual

theorem deepest_of_tooDeep : ∀ {fuel deeper : Nat} {s : Text} (opened : Nat),
    readValue fuel deeper s = .error .tooDeep → opened + deeper < deepest opened s
  | 0, deeper, s, opened, h => by simp [readValue] at h
  | fuel + 1, deeper, s, opened, h => by
    have hopened : ∀ {t : Text}, opened + 1 ≤ deepest (opened + 1) t := le_deepest
    unfold readValue at h
    split at h
    · exact absurd h ofOption_ne_tooDeep
    · rw [deepest_bracket]
      exact hopened
    · split at h
      · simp at h
      · have hinside := deepest_of_tooDeep_items (opened + 1) (map_eq_error_iff.1 h)
        rw [deepest_skipBlanks] at hinside
        rw [deepest_bracket]
        omega
    · rw [deepest_brace]
      exact hopened
    · split at h
      · simp at h
      · have hinside := deepest_of_tooDeep_fields (opened + 1) (map_eq_error_iff.1 h)
        rw [deepest_skipBlanks] at hinside
        rw [deepest_brace]
        omega
    · exact absurd h ofOption_ne_tooDeep

theorem deepest_of_tooDeep_items : ∀ {fuel deeper : Nat} {s : Text} (opened : Nat),
    readItems fuel deeper s = .error .tooDeep → opened + deeper < deepest opened s
  | 0, deeper, s, opened, h => by simp [readItems] at h
  | fuel + 1, deeper, s, opened, h => by
    unfold readItems at h
    split at h
    · next fault hread =>
      obtain rfl := Except.error.inj h
      exact deepest_of_tooDeep opened hread
    · next v behind hread =>
      obtain ⟨text, rfl, hwrites, -⟩ := writes_of_readValue hread
      split at h
      · simp at h
      · next later hskip =>
        have hlater := deepest_of_tooDeep_items opened (map_eq_error_iff.1 h)
        rw [deepest_skipBlanks] at hlater
        rw [deepest_writes hwrites, ← deepest_skipBlanks, hskip, deepest_cons (by decide)]
        omega
      · simp at h

theorem deepest_of_tooDeep_fields : ∀ {fuel deeper : Nat} {s : Text} (opened : Nat),
    readFields fuel deeper s = .error .tooDeep → opened + deeper < deepest opened s
  | 0, deeper, s, opened, h => by simp [readFields] at h
  | fuel + 1, deeper, s, opened, h => by
    unfold readFields at h
    split at h
    · split at h
      · simp at h
      · next s key named hname =>
        obtain ⟨name, hs, hstring⟩ := readString_eq_some_iff.1 hname
        rw [hs, deepest_string hstring, ← deepest_skipBlanks]
        split at h
        · next valued hcolon =>
          rw [hcolon, deepest_cons (by decide), ← deepest_skipBlanks]
          split at h
          · next fault hread =>
            obtain rfl := Except.error.inj h
            exact deepest_of_tooDeep opened hread
          · next v behind hread =>
            obtain ⟨text, htext, hwrites, -⟩ := writes_of_readValue hread
            rw [htext, deepest_writes hwrites, ← deepest_skipBlanks]
            split at h
            · simp at h
            · next later hskip =>
              have hlater := deepest_of_tooDeep_fields opened (map_eq_error_iff.1 h)
              rw [deepest_skipBlanks] at hlater
              rw [hskip, deepest_cons (by decide)]
              omega
            · simp at h
        · simp at h
    · simp at h

end

/-- The reader gives up for depth only where more is open than it reads. -/
theorem nesting_of_tooDeep {limit : Nat} (h : read s limit = .error .tooDeep) : limit < nesting s := by
  unfold read at h
  split at h
  · split at h <;> simp at h
  · next fault hread =>
    obtain rfl := Except.error.inj h
    have hdeep := deepest_of_tooDeep 0 hread
    rwa [Nat.zero_add, deepest_skipBlanks] at hdeep

end Json

end SuppressionAudit

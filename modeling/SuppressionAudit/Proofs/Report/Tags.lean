import Mathlib.Data.List.Infix
import Mathlib.Data.List.TakeWhile
import SuppressionAudit.Report

/-!
# Tags in marked-up text

What the tags of a text are, how many characters its pieces hold, and how a text with a tag behind it
is cut into pieces.
-/

namespace SuppressionAudit

namespace Markup

/-! ### Where tags are -/

/-- Whether a text may stand between the brackets of a tag. -/
def IsBody (body : Text) : Prop :=
  body.head?.any beginsTag = true ∧ ∀ d ∈ body, d ≠ '[' ∧ d ≠ ']'

theorem isBody_of_not_mem {body : Text} (hbegins : body.head?.any beginsTag = true)
    (hopening : '[' ∉ body) (hclosing : ']' ∉ body) : IsBody body :=
  ⟨hbegins, fun _ hd => ⟨fun e => hopening (e ▸ hd), fun e => hclosing (e ▸ hd)⟩⟩

theorem tagBody?_of_isBody {body rest : Text} (h : IsBody body) :
    tagBody? (body ++ ']' :: rest) = some body := by
  obtain ⟨hhead, hbody⟩ := h
  cases body with
  | nil => simp at hhead
  | cons c body =>
    have hc : beginsTag c = true := by simpa using hhead
    have hp : ∀ d ∈ body, (d != '[' && d != ']') = true := by
      intro d hd
      have := hbody d (List.mem_cons_of_mem c hd)
      simp [this.1, this.2]
    have hdrop : (body ++ ']' :: rest).dropWhile (fun d => d != '[' && d != ']') = ']' :: rest := by
      rw [List.dropWhile_append_of_pos hp]
      rfl
    have htake : (body ++ ']' :: rest).takeWhile (fun d => d != '[' && d != ']') = body := by
      rw [List.takeWhile_append_of_pos hp]
      simp
    rw [List.cons_append, tagBody?, if_pos hc, hdrop, htake]
    rfl

theorem isBody_of_tagBody? {s body : Text} (h : tagBody? s = some body) :
    IsBody body ∧ ∃ rest, s = body ++ ']' :: rest := by
  cases s with
  | nil => simp [tagBody?] at h
  | cons c s =>
    rw [tagBody?] at h
    split at h
    · next hc =>
      split at h
      · next rest hdrop =>
        obtain rfl := Option.some.inj h
        have hs := List.takeWhile_append_dropWhile (p := fun d => d != '[' && d != ']') (l := s)
        refine ⟨⟨by simpa using hc, fun d hd => ?_⟩, rest, ?_⟩
        · cases List.mem_cons.1 hd with
          | inl e =>
            rw [e]
            constructor <;> · rintro rfl; revert hc; decide
          | inr hd =>
            have := List.mem_takeWhile_imp hd
            simpa using this
        · rw [hdrop] at hs
          rw [List.cons_append, hs]
      · simp at h
    · simp at h

theorem tagAt?_of_isBody {body : Text} (n : Nat) (h : IsBody body) (rest : Text) :
    tagAt? (List.replicate n '\\' ++ '[' :: (body ++ ']' :: rest)) = some (n, body) := by
  have hp : ∀ c ∈ List.replicate n '\\', (c == '\\') = true := by
    intro c hc
    rw [List.eq_of_mem_replicate hc]
    rfl
  have hdrop : (List.replicate n '\\' ++ '[' :: (body ++ ']' :: rest)).dropWhile (fun c => c == '\\')
      = '[' :: (body ++ ']' :: rest) := by
    rw [List.dropWhile_append_of_pos hp]
    rfl
  have htake : (List.replicate n '\\' ++ '[' :: (body ++ ']' :: rest)).takeWhile
      (fun c => c == '\\') = List.replicate n '\\' := by
    rw [List.takeWhile_append_of_pos hp]
    simp
  rw [tagAt?, hdrop]
  simp only [tagBody?_of_isBody h, htake, Option.map_some, List.length_replicate]

theorem isBody_of_tagAt? {s body : Text} {n : Nat} (h : tagAt? s = some (n, body)) :
    IsBody body ∧ ∃ rest, s = List.replicate n '\\' ++ '[' :: (body ++ ']' :: rest) := by
  rw [tagAt?] at h
  split at h
  · next rest hdrop =>
    obtain ⟨found, hfound, he⟩ := Option.map_eq_some_iff.1 h
    simp only [Prod.mk.injEq] at he
    obtain ⟨hn, rfl⟩ := he
    obtain ⟨hbody, after, hrest⟩ := isBody_of_tagBody? hfound
    refine ⟨hbody, after, ?_⟩
    have hs := List.takeWhile_append_dropWhile (p := fun c => c == '\\') (l := s)
    have hall : s.takeWhile (fun c => c == '\\') = List.replicate n '\\' := by
      refine List.eq_replicate_iff.2 ⟨hn, fun c hc => ?_⟩
      simpa using List.mem_takeWhile_imp hc
    rw [← hs, hall, hdrop, hrest]
  · simp at h

/-- A tag that ends before another bracket opens does not see what comes behind that bracket. -/
theorem tagBody?_append {n : Nat} {s rest : Text} :
    tagBody? (s ++ (List.replicate n '\\' ++ '[' :: rest)) = tagBody? s := by
  have hback : ∀ c ∈ List.replicate n '\\', (c != '[' && c != ']') = true := by
    intro c hc
    rw [List.eq_of_mem_replicate hc]
    decide
  cases s with
  | nil => cases n <;> rfl
  | cons c s =>
    rw [List.cons_append, tagBody?, tagBody?, List.dropWhile_append, List.takeWhile_append]
    cases hs : s.dropWhile fun d => d != '[' && d != ']' with
    | nil =>
      have hrest : (List.replicate n '\\' ++ '[' :: rest).dropWhile (fun d => d != '[' && d != ']')
          = '[' :: rest := by
        rw [List.dropWhile_append_of_pos hback]
        rfl
      rw [List.isEmpty_nil, if_pos rfl, hrest]
      rfl
    | cons d more =>
      have hne : (s.takeWhile fun d => d != '[' && d != ']').length ≠ s.length := by
        intro he
        have hlen := congrArg List.length
          (List.takeWhile_append_dropWhile (p := fun d => d != '[' && d != ']') (l := s))
        rw [List.length_append, hs, List.length_cons] at hlen
        omega
      rw [List.isEmpty_cons, if_neg hne]
      by_cases hd : d = ']' <;> simp [hd]

theorem tagAt?_append (n : Nat) {s : Text} (h : ∃ c ∈ s, c ≠ '\\') (rest : Text) :
    tagAt? (s ++ (List.replicate n '\\' ++ '[' :: rest)) = tagAt? s := by
  have hne : s.dropWhile (fun c => c == '\\') ≠ [] := by
    obtain ⟨c, hc, hcne⟩ := h
    intro he
    exact hcne (by simpa using List.dropWhile_eq_nil_iff.1 he c hc)
  obtain ⟨c, more, hs⟩ := List.exists_cons_of_ne_nil hne
  have hlen : (s.takeWhile fun c => c == '\\').length ≠ s.length := by
    intro he
    have hlen := congrArg List.length
      (List.takeWhile_append_dropWhile (p := fun c => c == '\\') (l := s))
    rw [List.length_append, hs, List.length_cons] at hlen
    omega
  rw [tagAt?, tagAt?, List.dropWhile_append, List.takeWhile_append, hs, List.isEmpty_cons,
    if_neg hlen]
  by_cases hc : c = '['
  · subst hc
    simp only [Bool.false_eq_true, if_false, List.cons_append, tagBody?_append]
  · simp [hc]

/-! ### Pieces -/

/-- The characters that a piece shows, as they are written. -/
def Piece.raw : Piece → Text
  | .run s => s
  | .literal s => s
  | .tag _ _ => []

/-- The characters that pieces show, as they are written. -/
def rawText (found : List Piece) : Text := found.flatMap Piece.raw

@[simp] theorem rawText_nil : rawText [] = [] := rfl

@[simp] theorem rawText_cons (p : Piece) (found : List Piece) :
    rawText (p :: found) = p.raw ++ rawText found := rfl

@[simp] theorem rawText_append (found more : List Piece) :
    rawText (found ++ more) = rawText found ++ rawText more := by
  simp [rawText]

@[simp] theorem rawText_addChar (c : Char) (found : List Piece) :
    rawText (addChar c found) = c :: rawText found := by
  unfold addChar
  split <;> simp [Piece.raw]

@[simp] theorem rawText_backslashes (n : Nat) : rawText (backslashes n) = List.replicate n '\\' := by
  unfold backslashes
  split
  · next h => simp [h]
  · simp [Piece.raw]

theorem piecesAfter_skip (position : Nat) (s rest : Text) :
    piecesAfter position s.length (s ++ rest) = piecesAfter (position + s.length) 0 rest := by
  induction s generalizing position with
  | nil => rfl
  | cons c s ih =>
    rw [List.length_cons, List.cons_append, piecesAfter, ih]
    congr 1
    omega

/-- The characters that a tag and the backslashes before it take, and those behind it. -/
theorem length_of_tagAt? {s body : Text} {n : Nat} (h : tagAt? s = some (n, body)) :
    ∃ rest : Text, s.length = n + body.length + 2 + rest.length := by
  obtain ⟨_, rest, rfl⟩ := isBody_of_tagAt? h
  refine ⟨rest, ?_⟩
  simp only [List.length_append, List.length_cons, List.length_replicate]
  omega

/-- What is shown of a tag and the backslashes before it. -/
def tagPieces (position slashes : Nat) (body : Text) : List Piece :=
  backslashes (slashes / 2) ++
    [if slashes % 2 = 1 then .literal ('[' :: body ++ [']']) else .tag body (position + slashes)]

theorem tagPieces_append_ne_run (position n : Nat) (body : Text) (more : List Piece) (s : Text)
    (rest : List Piece) : tagPieces position n body ++ more ≠ .run s :: rest := by
  unfold tagPieces backslashes
  split <;> split <;> simp

theorem piecesAfter_cons {position : Nat} {c : Char} {s : Text} (h : tagAt? (c :: s) = none) :
    piecesAfter position 0 (c :: s) = addChar c (piecesAfter (position + 1) 0 s) := by
  rw [piecesAfter, h]

theorem piecesAfter_of_tagAt? {position n : Nat} {c : Char} {s body : Text}
    (h : tagAt? (c :: s) = some (n, body)) :
    piecesAfter position 0 (c :: s)
      = tagPieces position n body ++ piecesAfter (position + 1) (n + body.length + 1) s := by
  rw [piecesAfter, h]
  simp [tagPieces]

theorem piecesAfter_tag (position n : Nat) {body : Text} (h : IsBody body) (rest : Text) :
    piecesAfter position 0 (List.replicate n '\\' ++ '[' :: (body ++ ']' :: rest))
      = tagPieces position n body ++ piecesAfter (position + (n + body.length + 2)) 0 rest := by
  have htag := tagAt?_of_isBody n h rest
  have hskip : ∀ u : Text, u.length = n + body.length + 1 →
      piecesAfter (position + 1) (n + body.length + 1) (u ++ rest)
        = piecesAfter (position + (n + body.length + 2)) 0 rest := by
    intro u hu
    rw [← hu, piecesAfter_skip]
    congr 1
    omega
  cases n with
  | zero =>
    have hu := hskip (body ++ [']']) (by simp)
    rw [List.append_assoc] at hu
    rw [List.replicate_zero, List.nil_append] at htag ⊢
    rw [piecesAfter_of_tagAt? htag]
    exact congrArg (tagPieces position 0 body ++ ·) hu
  | succ n =>
    have hu := hskip (List.replicate n '\\' ++ '[' :: (body ++ [']'])) (by
      simp only [List.length_append, List.length_cons, List.length_replicate, List.length_nil]
      omega)
    simp only [List.append_assoc, List.cons_append, List.nil_append] at hu
    rw [List.replicate_succ, List.cons_append] at htag ⊢
    rw [piecesAfter_of_tagAt? htag, hu]

theorem length_rawText_tagPieces (position n : Nat) (body : Text) :
    (rawText (tagPieces position n body)).length < n + body.length + 2 := by
  unfold tagPieces
  rw [rawText_append, rawText_backslashes, List.length_append, List.length_replicate]
  split
  · simp only [rawText_cons, rawText_nil, Piece.raw, List.append_nil, List.length_append,
      List.length_cons, List.length_nil]
    omega
  · simp only [rawText_cons, rawText_nil, Piece.raw, List.append_nil, List.length_nil]
    omega

theorem raw_isInfix_of_mem_tagPieces {position n : Nat} {body : Text} {p : Piece}
    (h : p ∈ tagPieces position n body) (rest : Text) :
    p.raw <:+: List.replicate n '\\' ++ '[' :: (body ++ ']' :: rest) := by
  cases List.mem_append.1 h with
  | inl h =>
    have hraw : p.raw = List.replicate (n / 2) '\\' := by
      unfold backslashes at h
      split at h
      · simp at h
      · rw [List.mem_singleton.1 h, Piece.raw]
    have hsplit : List.replicate n '\\'
        = List.replicate (n / 2) '\\' ++ List.replicate (n - n / 2) '\\' := by
      rw [List.replicate_append_replicate]
      congr 1
      omega
    rw [hraw, hsplit, List.append_assoc]
    exact List.IsPrefix.isInfix ⟨_, rfl⟩
  | inr h =>
    rw [List.mem_singleton.1 h]
    split
    · exact ⟨List.replicate n '\\', rest, by simp [Piece.raw]⟩
    · exact List.nil_infix

/-- Pieces show no more characters than are written, and fewer where there is a tag. -/
theorem length_rawText_piecesAfter (position inside : Nat) (s : Text) :
    (rawText (piecesAfter position inside s)).length ≤ s.length - inside := by
  induction s generalizing position inside with
  | nil => simp [piecesAfter]
  | cons c s ih =>
    cases inside with
    | succ inside =>
      rw [piecesAfter, List.length_cons]
      have := ih (position + 1) inside
      omega
    | zero =>
      cases htag : tagAt? (c :: s) with
      | none =>
        have := ih (position + 1) 0
        rw [piecesAfter_cons htag, rawText_addChar, List.length_cons, List.length_cons]
        omega
      | some found =>
        obtain ⟨n, body⟩ := found
        obtain ⟨rest, hlen⟩ := length_of_tagAt? htag
        rw [List.length_cons] at hlen
        have hfront := length_rawText_tagPieces position n body
        have hback := ih (position + 1) (n + body.length + 1)
        rw [piecesAfter_of_tagAt? htag, rawText_append, List.length_append, List.length_cons]
        omega

theorem tagAt?_eq_none_of_length (position : Nat) {s : Text}
    (h : s.length ≤ (rawText (piecesAfter position 0 s)).length) {v : Text} (hv : v <:+ s) :
    tagAt? v = none := by
  induction s generalizing position with
  | nil =>
    obtain rfl := List.suffix_nil.1 hv
    rfl
  | cons c s ih =>
    cases htag : tagAt? (c :: s) with
    | none =>
      rw [piecesAfter_cons htag, rawText_addChar, List.length_cons, List.length_cons] at h
      cases List.suffix_cons_iff.1 hv with
      | inl e => rw [e, htag]
      | inr hv =>
        have hrest : s.length ≤ (rawText (piecesAfter (position + 1) 0 s)).length := by omega
        exact ih (position + 1) hrest hv
    | some found =>
      obtain ⟨n, body⟩ := found
      obtain ⟨rest, hlen⟩ := length_of_tagAt? htag
      rw [List.length_cons] at hlen
      have hfront := length_rawText_tagPieces position n body
      have hback := length_rawText_piecesAfter (position + 1) (n + body.length + 1) s
      rw [piecesAfter_of_tagAt? htag, rawText_append, List.length_append, List.length_cons] at h
      omega

theorem run_isPrefix {position : Nat} {s r : Text} {rest : List Piece}
    (h : piecesAfter position 0 s = .run r :: rest) : r <+: s := by
  induction s generalizing position r rest with
  | nil => simp [piecesAfter] at h
  | cons c s ih =>
    cases htag : tagAt? (c :: s) with
    | none =>
      rw [piecesAfter_cons htag] at h
      unfold addChar at h
      split at h
      · next r' rest' hrun =>
        simp only [List.cons.injEq, Piece.run.injEq] at h
        rw [← h.1]
        exact (List.prefix_cons_inj c).2 (ih hrun)
      · simp only [List.cons.injEq, Piece.run.injEq] at h
        rw [← h.1]
        exact ⟨s, rfl⟩
    | some found =>
      rw [piecesAfter_of_tagAt? htag] at h
      exact absurd h (tagPieces_append_ne_run _ _ _ _ _ _)

/-- What a piece shows stands in the text. -/
theorem raw_isInfix_of_mem {position inside : Nat} {s : Text} {p : Piece}
    (h : p ∈ piecesAfter position inside s) : p.raw <:+: s := by
  induction s generalizing position inside with
  | nil => simp [piecesAfter] at h
  | cons c s ih =>
    have hcons : s <:+: c :: s := (List.suffix_cons c s).isInfix
    cases inside with
    | succ inside =>
      rw [piecesAfter] at h
      exact (ih h).trans hcons
    | zero =>
      cases htag : tagAt? (c :: s) with
      | none =>
        rw [piecesAfter_cons htag] at h
        unfold addChar at h
        split at h
        · next r rest hrun =>
          cases List.mem_cons.1 h with
          | inl e =>
            rw [e]
            exact ((List.prefix_cons_inj c).2 (run_isPrefix hrun)).isInfix
          | inr h => exact (ih (hrun ▸ List.mem_cons_of_mem _ h)).trans hcons
        · cases List.mem_cons.1 h with
          | inl e =>
            rw [e]
            exact List.IsPrefix.isInfix ⟨s, rfl⟩
          | inr h => exact (ih h).trans hcons
      | some found =>
        obtain ⟨n, body⟩ := found
        obtain ⟨-, rest, hs⟩ := isBody_of_tagAt? htag
        rw [piecesAfter_of_tagAt? htag] at h
        cases List.mem_append.1 h with
        | inl h =>
          rw [hs]
          exact raw_isInfix_of_mem_tagPieces h rest
        | inr h => exact (ih h).trans hcons

/-- The pieces of a text without tags. -/
def textPieces (s : Text) : List Piece := if s.isEmpty then [] else [.run s]

theorem piecesAfter_of_tagAt?_eq_none {s : Text} (h : ∀ v, v <:+ s → tagAt? v = none)
    (position : Nat) : piecesAfter position 0 s = textPieces s := by
  induction s generalizing position with
  | nil => rfl
  | cons c s ih =>
    have hrest : ∀ v, v <:+ s → tagAt? v = none :=
      fun v hv => h v (hv.trans (List.suffix_cons c s))
    rw [piecesAfter_cons (h (c :: s) List.suffix_rfl), ih hrest]
    cases s <;> rfl

theorem addChar_append {c : Char} {found more : List Piece} (h : ∀ s rest, more ≠ .run s :: rest) :
    addChar c (found ++ more) = addChar c found ++ more := by
  cases found with
  | nil =>
    cases more with
    | nil => rfl
    | cons p rest =>
      cases p with
      | run s => exact absurd rfl (h s rest)
      | literal s => rfl
      | tag body position => rfl
  | cons p rest => cases p <;> rfl

/-- A text that no backslash ends is cut into pieces on its own when a tag comes behind it. -/
theorem piecesAfter_append {n : Nat} {s body rest : Text} (hbody : IsBody body)
    (hlast : s.getLast? ≠ some '\\') (position inside : Nat) (hinside : inside ≤ s.length) :
    piecesAfter position inside (s ++ (List.replicate n '\\' ++ '[' :: (body ++ ']' :: rest)))
      = piecesAfter position inside s
        ++ piecesAfter (position + s.length) 0
          (List.replicate n '\\' ++ '[' :: (body ++ ']' :: rest)) := by
  induction s generalizing position inside with
  | nil =>
    obtain rfl : inside = 0 := by simpa using hinside
    rfl
  | cons c s ih =>
    have hlast' : s.getLast? ≠ some '\\' := by
      intro e
      rw [List.getLast?_cons, e] at hlast
      exact hlast rfl
    have hposition : position + (c :: s).length = position + 1 + s.length := by
      rw [List.length_cons]
      omega
    rw [hposition]
    cases inside with
    | succ inside =>
      rw [List.cons_append, piecesAfter, piecesAfter,
        ih hlast' (position + 1) inside (by simpa using hinside)]
    | zero =>
      have hne : ∃ d ∈ c :: s, d ≠ '\\' := by
        refine ⟨(c :: s).getLast (by simp), List.getLast_mem _, fun e => hlast ?_⟩
        rw [List.getLast?_eq_some_getLast (by simp), e]
      have hsame := tagAt?_append n hne (body ++ ']' :: rest)
      cases htag : tagAt? (c :: s) with
      | none =>
        rw [htag, List.cons_append] at hsame
        rw [List.cons_append, piecesAfter_cons hsame, piecesAfter_cons htag,
          ih hlast' (position + 1) 0 (by omega), piecesAfter_tag _ n hbody rest]
        exact addChar_append (tagPieces_append_ne_run _ n body _)
      | some found =>
        obtain ⟨k, inner⟩ := found
        obtain ⟨behind, hlen⟩ := length_of_tagAt? htag
        rw [List.length_cons] at hlen
        rw [htag, List.cons_append] at hsame
        rw [List.cons_append, piecesAfter_of_tagAt? hsame, piecesAfter_of_tagAt? htag,
          ih hlast' (position + 1) (k + inner.length + 1) (by omega), List.append_assoc]

end Markup

end SuppressionAudit

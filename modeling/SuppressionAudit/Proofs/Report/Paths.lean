import SuppressionAudit.Proofs.Report.Tags

/-!
# Paths in markup

The path of a file goes through markup between the two tags of its style. A path is shown as it is if
and only if markup finds nothing in it: no tag, no backslash that goes before a bracket, and none that
comes to stand before the closing tag.
-/

namespace SuppressionAudit

/-! ### The style of a path -/

namespace StyleName

theorem readColor_cyan : readColor ['c', 'y', 'a', 'n'] = .ok ['c', 'y', 'a', 'n'] := by
  have hmem : "cyan" ∈ ColorName.named := by
    iterate 6 apply List.mem_cons_of_mem
    exact List.mem_cons_self
  have hname : String.ofList ['c', 'y', 'a', 'n'] = "cyan" := rfl
  have hread : ColorName.read ['c', 'y', 'a', 'n'] = .color := by
    unfold ColorName.read
    rw [hname, List.contains_iff_mem.2 hmem, Bool.or_true]
    rfl
  rw [readColor, hread]

theorem read_boldCyan :
    read "bold cyan".toList = .ok ⟨[("bold", true)], some ['c', 'y', 'a', 'n'], none, none⟩ := by
  have htrim : Text.trim "bold cyan".toList ≠ "none".toList := by decide
  have hwords : Text.words "bold cyan".toList = [['b', 'o', 'l', 'd'], ['c', 'y', 'a', 'n']] := by
    decide
  have hbold : Text.lowercase ['b', 'o', 'l', 'd'] = ['b', 'o', 'l', 'd'] := by decide
  have hcyan : Text.lowercase ['c', 'y', 'a', 'n'] = ['c', 'y', 'a', 'n'] := by decide
  have hattribute : attribute? ['b', 'o', 'l', 'd'] = some "bold" := by simp [attribute?, attributes]
  have hcolor : attribute? ['c', 'y', 'a', 'n'] = none := by
    simp [attribute?, attributes, shortWords]
  rw [read, if_neg htrim, hwords]
  simp [readWords, hbold, hcyan, hattribute, hcolor, readColor_cyan, Style.plain]

theorem normalize?_boldCyan : normalize? "bold cyan".toList = some "bold cyan".toList := by
  have hwords : wordsOf ⟨[("bold", true)], some ['c', 'y', 'a', 'n'], none, none⟩
      = [['b', 'o', 'l', 'd'], ['c', 'y', 'a', 'n']] := by
    simp [wordsOf, attributes]
  simp only [normalize?, read_boldCyan, hwords]
  rfl

end StyleName

/-! ### Codes of emoji -/

namespace Emoji

theorem replaceAfter_eq_drop (k : Nat) (s : Text) : replaceAfter k s = replaceAfter 0 (s.drop k) := by
  induction k generalizing s with
  | zero => rfl
  | succ k ih =>
    cases s with
    | nil => simp [replaceAfter]
    | cons c s => rw [replaceAfter, ih, List.drop_succ_cons]

theorem of_codeAt? {s code : Text} (h : codeAt? s = some code) : ∃ rest, s = code ++ ':' :: rest := by
  unfold codeAt? at h
  simp only at h
  split at h
  · next rest hdrop =>
    refine ⟨rest, ?_⟩
    rw [← Option.some.inj h, ← hdrop, List.takeWhile_append_dropWhile]
  · simp at h

/-- A text that holds no code stays as it is, also with colons in it. -/
theorem replaceCodes_of_no_code {s : Text}
    (h : ∀ code, ':' :: (code ++ [':']) <:+: s → ofCode? code = none) : replaceCodes s = s := by
  unfold replaceCodes
  induction hn : s.length using Nat.strong_induction_on generalizing s with
  | _ n ih =>
    cases s with
    | nil => rfl
    | cons c s =>
      have hcons : s <:+: c :: s := (List.suffix_cons c s).isInfix
      have hnext := ih s.length (by rw [← hn]; simp) (fun code hc => h code (hc.trans hcons)) rfl
      by_cases hc : c = ':'
      · subst hc
        cases hcode : codeAt? s with
        | none => simp only [replaceAfter, if_true, hcode, hnext]
        | some code =>
          obtain ⟨rest, hs⟩ := of_codeAt? hcode
          have hsplit : ':' :: s = ':' :: (code ++ [':']) ++ rest := by simp [hs]
          have hnone := h code (hsplit ▸ List.IsPrefix.isInfix ⟨rest, rfl⟩)
          have hrest : s.drop (code.length + 1) = rest := by
            rw [hs, ← List.drop_drop, List.drop_left]
            rfl
          have hinfix : rest <:+: ':' :: s := hsplit ▸ List.IsSuffix.isInfix ⟨_, rfl⟩
          have hlen : rest.length < n := by
            rw [← hn, hs]
            simp only [List.length_cons, List.length_append]
            omega
          have hnext := ih rest.length hlen (fun other hc => h other (hc.trans hinfix)) rfl
          simp only [replaceAfter, if_true, hcode, hnone, Option.getD_none]
          rw [replaceAfter_eq_drop, hrest, hnext, hsplit]
          simp
      · rw [replaceAfter, if_neg hc, hnext]

end Emoji

namespace Markup

namespace Reading

/-! ### Escapes -/

theorem dropEscapes_cons (c : Char) (s : Text) :
    dropEscapes (c :: s) = if c = '\\' ∧ s.head? = some '[' then dropEscapes s else c :: dropEscapes s :=
  rfl

theorem dropEscapes_sublist (s : Text) : (dropEscapes s).Sublist s := by
  induction s with
  | nil => exact List.Sublist.slnil
  | cons c s ih =>
    rw [dropEscapes_cons]
    split
    · exact ih.cons c
    · exact ih.cons_cons c

theorem dropEscapes_eq_self_iff {s : Text} : dropEscapes s = s ↔ ¬ ['\\', '['] <:+: s := by
  induction s with
  | nil => simp [dropEscapes]
  | cons c s ih =>
    have hprefix : ['\\', '['] <+: c :: s ↔ c = '\\' ∧ s.head? = some '[' := by
      cases s with
      | nil => simp
      | cons d s => simp [List.cons_prefix_cons, eq_comm]
    rw [List.infix_cons_iff, hprefix, dropEscapes_cons]
    split
    · next hc =>
      refine ⟨fun e => ?_, fun hn => absurd (Or.inl hc) hn⟩
      have := (dropEscapes_sublist s).length_le
      rw [e, List.length_cons] at this
      omega
    · next hc => simp [hc, ih]

/-- Of two texts only a backslash at the end of the first one can be dropped for the second one. -/
theorem dropEscapes_append (s t : Text) :
    ∃ front, dropEscapes (s ++ t) = front ++ dropEscapes t ∧
      (dropEscapes s = front ∨ dropEscapes s = front ++ ['\\']) := by
  induction s with
  | nil => exact ⟨[], rfl, Or.inl rfl⟩
  | cons c s ih =>
    obtain ⟨front, happ, hfront⟩ := ih
    rw [List.cons_append, dropEscapes_cons, dropEscapes_cons]
    cases s with
    | nil =>
      by_cases hc : c = '\\' ∧ t.head? = some '['
      · exact ⟨[], by simp [hc], Or.inr (by simp [hc.1, dropEscapes])⟩
      · exact ⟨[c], by simp [hc], Or.inl (by simp [dropEscapes])⟩
    | cons d s =>
      rw [List.cons_append, List.head?_cons, List.head?_cons]
      rw [List.cons_append] at happ
      split
      · exact ⟨front, happ, hfront⟩
      · refine ⟨c :: front, by rw [happ, List.cons_append], ?_⟩
        rcases hfront with e | e <;> simp [e]

/-- A code in a part of a text, without its escapes, is one in the whole text without its escapes. -/
theorem code_isInfix_dropEscapes {code r s : Text} (hr : r <:+: s)
    (h : ':' :: (code ++ [':']) <:+: dropEscapes r) : ':' :: (code ++ [':']) <:+: dropEscapes s := by
  obtain ⟨u, v, rfl⟩ := hr
  obtain ⟨front, hfront, -⟩ := dropEscapes_append u (r ++ v)
  obtain ⟨middle, hmiddle, hr⟩ := dropEscapes_append r v
  have hcode : ':' :: (code ++ [':']) <:+: middle := by
    rcases hr with e | e
    · rwa [e] at h
    · rw [e, List.infix_concat_iff] at h
      refine h.resolve_left fun hsuffix => ?_
      obtain ⟨w, hw⟩ := hsuffix
      have hlast : (w ++ ':' :: code ++ [':']).getLast? = (middle ++ ['\\']).getLast? := by
        rw [← hw]
        simp
      rw [List.getLast?_concat, List.getLast?_concat] at hlast
      exact absurd hlast (by decide)
  rw [List.append_assoc, hfront, hmiddle]
  exact hcode.trans ⟨front, dropEscapes v, by simp⟩

end Reading

/-! ### What is shown -/

/-- Whether a text holds nothing that a console itself takes for something else: no character that it
refuses, and no code of an emoji where the escapes are dropped. -/
structure IsOrdinary (s : Text) : Prop where
  controls : ∀ c ∈ s, Text.isConsoleControl c = false
  codes : ∀ code, ':' :: (code ++ [':']) <:+: Reading.dropEscapes s → Emoji.ofCode? code = none

theorem isOrdinary_of_not_mem {s : Text} (hcontrols : s.any Text.isConsoleControl = false)
    (hcolon : ':' ∉ s) : IsOrdinary s :=
  ⟨fun c hc => Bool.eq_false_iff.2 (List.any_eq_false.1 hcontrols c hc), fun _ h => absurd ((Reading.dropEscapes_sublist s).subset (h.subset List.mem_cons_self))
    hcolon⟩

/-- What characters that are no tag look like. -/
def shownText (s : Text) : Text := Text.dropControls (Emoji.replaceCodes (Reading.dropEscapes s))

theorem shownText_nil : shownText [] = [] := rfl

/-- What pieces look like, one after the other. -/
def shownPieces (found : List Piece) : Text := found.flatMap fun p => shownText p.raw

theorem shownPieces_cons (p : Piece) (found : List Piece) :
    shownPieces (p :: found) = shownText p.raw ++ shownPieces found := rfl

theorem shownPieces_append (found more : List Piece) :
    shownPieces (found ++ more) = shownPieces found ++ shownPieces more := by
  simp [shownPieces]

theorem IsOrdinary.shownText_eq {s r : Text} (h : IsOrdinary s) (hr : r <:+: s) :
    shownText r = Reading.dropEscapes r := by
  have hcodes : Emoji.replaceCodes (Reading.dropEscapes r) = Reading.dropEscapes r :=
    Emoji.replaceCodes_of_no_code fun code hc => h.codes code (Reading.code_isInfix_dropEscapes hr hc)
  rw [shownText, hcodes, Text.dropControls, List.filter_eq_self]
  intro c hc
  rw [h.controls c (hr.subset ((Reading.dropEscapes_sublist r).subset hc))]
  rfl

theorem IsOrdinary.length_shownPieces_le {s : Text} (h : IsOrdinary s) {found : List Piece}
    (hfound : ∀ p ∈ found, p.raw <:+: s) : (shownPieces found).length ≤ (rawText found).length := by
  induction found with
  | nil => exact Nat.le_refl 0
  | cons p found ih =>
    have hp := (Reading.dropEscapes_sublist p.raw).length_le
    have hrest := ih fun q hq => hfound q (List.mem_cons_of_mem p hq)
    rw [shownPieces_cons, h.shownText_eq (hfound p List.mem_cons_self), List.length_append,
      rawText_cons, List.length_append]
    omega

namespace Reading

theorem text_applyTag {r r' : Reading} {body : Text} {position : Nat}
    (h : r.applyTag body position = .ok r') : r'.shown.text = r.shown.text := by
  unfold applyTag at h
  split at h
  · split at h
    · simp at h
    · next tag rest _ =>
      split at h
      · simp at h
      · rw [← Except.ok.inj h]
  · split at h
    · rw [← Except.ok.inj h]
    · simp at h

theorem text_addText (r : Reading) (s : Text) :
    (r.addText s).shown.text = r.shown.text ++ shownText s := rfl

theorem text_addPieces {r r' : Reading} {found : List Piece} (h : r.addPieces found = .ok r') :
    r'.shown.text = r.shown.text ++ shownPieces found := by
  induction found generalizing r with
  | nil =>
    rw [← Except.ok.inj h]
    simp [shownPieces]
  | cons p found ih =>
    cases p with
    | run s => rw [ih h, text_addText, List.append_assoc, shownPieces_cons, Piece.raw]
    | literal s => rw [ih h, text_addText, List.append_assoc, shownPieces_cons, Piece.raw]
    | tag body position =>
      rw [addPieces] at h
      split at h
      · simp at h
      · next next hnext => rw [ih h, text_applyTag hnext, shownPieces_cons]; rfl

end Reading

theorem text_render {s : Text} {t : StyledText} (h : render s = .ok t) :
    t.text = shownPieces (pieces s) := by
  unfold render at h
  cases hr : Reading.initial.addPieces (pieces s) with
  | error e => rw [hr] at h; cases h
  | ok r =>
    rw [hr] at h
    rw [← Except.ok.inj h]
    exact Reading.text_addPieces hr

/-! ### Plain paths -/

/-- Whether markup finds nothing in a text that a tag comes behind. -/
structure IsPlain (s : Text) : Prop where
  noTag : ∀ body, IsBody body → ¬ '[' :: (body ++ [']']) <:+: s
  noEscape : ¬ ['\\', '['] <:+: s
  noFinalBackslash : s.getLast? ≠ some '\\'

theorem noTag_iff {s : Text} : (∀ body, IsBody body → ¬ '[' :: (body ++ [']']) <:+: s) ↔
    ∀ v, v <:+ s → tagAt? v = none := by
  constructor
  · intro h v hv
    cases htag : tagAt? v with
    | none => rfl
    | some found =>
      obtain ⟨n, body⟩ := found
      obtain ⟨hbody, rest, rfl⟩ := isBody_of_tagAt? htag
      exact absurd (List.IsInfix.trans ⟨List.replicate n '\\', rest, by simp⟩ hv.isInfix) (h body hbody)
  · rintro h body hbody ⟨u, v, rfl⟩
    have htag := tagAt?_of_isBody 0 hbody v
    have hnone := h ('[' :: (body ++ ']' :: v)) ⟨u, by simp⟩
    rw [List.replicate_zero, List.nil_append, hnone] at htag
    cases htag

theorem isPlain_iff {s : Text} : IsPlain s ↔ ((List.tails s).all fun v => (tagAt? v).isNone) = true ∧
    Reading.dropEscapes s = s ∧ s.getLast? ≠ some '\\' := by
  have htails : ((List.tails s).all fun v => (tagAt? v).isNone) = true ↔
      ∀ v, v <:+ s → tagAt? v = none := by
    simp only [List.all_eq_true, List.mem_tails, Option.isNone_iff_eq_none]
  rw [htails, Reading.dropEscapes_eq_self_iff, ← noTag_iff]
  exact ⟨fun h => ⟨h.noTag, h.noEscape, h.noFinalBackslash⟩, fun h => ⟨h.1, h.2.1, h.2.2⟩⟩

instance (s : Text) : Decidable (IsPlain s) := decidable_of_iff' _ isPlain_iff

/-- What stands between the brackets of the tag in front of a path. -/
def openingBody : Text := "bold cyan".toList

/-- What stands between the brackets of the tag behind a path. -/
def closingBody : Text := "/bold cyan".toList

theorem isBody_openingBody : IsBody openingBody :=
  isBody_of_not_mem (by decide) (by decide) (by decide)

theorem isBody_closingBody : IsBody closingBody :=
  isBody_of_not_mem (by decide) (by decide) (by decide)

theorem pathMarkup_eq (path : Text) : Report.pathMarkup path
    = '[' :: (openingBody ++ ']' :: (path ++ '[' :: (closingBody ++ [']']))) := by
  have hopening : "[bold cyan]".toList = '[' :: (openingBody ++ [']']) := by decide
  have hclosing : "[/bold cyan]".toList = '[' :: (closingBody ++ [']']) := by decide
  refine (congrArg₂ (fun opening closing : Text => opening ++ path ++ closing) hopening hclosing).trans ?_
  simp only [List.append_assoc, List.cons_append, List.nil_append]

/-- The backslashes at the end of a path go with the closing tag. -/
theorem pieces_pathMarkup {s : Text} (n : Nat) (h : s.getLast? ≠ some '\\') :
    pieces (Report.pathMarkup (s ++ List.replicate n '\\'))
      = .tag openingBody 0 :: (piecesAfter 11 0 s ++ tagPieces (11 + s.length) n closingBody) := by
  have hmarkup : Report.pathMarkup (s ++ List.replicate n '\\')
      = List.replicate 0 '\\' ++ '[' :: (openingBody ++ ']' ::
        (s ++ (List.replicate n '\\' ++ '[' :: (closingBody ++ ']' :: [])))) := by
    rw [pathMarkup_eq, List.append_assoc, List.replicate_zero, List.nil_append]
  have hposition : 0 + (0 + openingBody.length + 2) = 11 := by decide
  have htag : tagPieces 0 0 openingBody = [.tag openingBody 0] := rfl
  rw [pieces, hmarkup, piecesAfter_tag 0 0 isBody_openingBody, hposition,
    piecesAfter_append isBody_closingBody h 11 0 (Nat.zero_le _),
    piecesAfter_tag (11 + s.length) n isBody_closingBody, piecesAfter, List.append_nil, htag,
    List.singleton_append]

theorem exists_append_backslashes (s : Text) :
    ∃ (front : Text) (n : Nat), s = front ++ List.replicate n '\\' ∧ front.getLast? ≠ some '\\' := by
  induction s using List.reverseRecOn with
  | nil => exact ⟨[], 0, rfl, by simp⟩
  | append_singleton s c ih =>
    by_cases hc : c = '\\'
    · obtain ⟨front, n, rfl, hfront⟩ := ih
      exact ⟨front, n + 1, by rw [hc, List.replicate_succ', List.append_assoc], hfront⟩
    · exact ⟨s ++ [c], 0, by simp, by simpa using hc⟩

theorem shownText_closingTag : shownText ('[' :: closingBody ++ [']']) = '[' :: closingBody ++ [']'] := by
  have hescapes : Reading.dropEscapes ('[' :: closingBody ++ [']']) = '[' :: closingBody ++ [']'] := by
    decide
  rw [shownText, hescapes, Emoji.replaceCodes_eq_self (by decide)]
  decide

theorem length_shownPieces_backslashes (m : Nat) : (shownPieces (backslashes m)).length ≤ m := by
  unfold backslashes
  split
  · exact Nat.zero_le m
  · have hcolon : ':' ∉ Reading.dropEscapes (List.replicate m '\\') := by
      intro hc
      have := List.eq_of_mem_replicate ((Reading.dropEscapes_sublist _).subset hc)
      exact absurd this (by decide)
    have hlen := (Reading.dropEscapes_sublist (List.replicate m '\\')).length_le
    have hcontrols := List.length_filter_le (fun c => !Text.isConsoleControl c)
      (Reading.dropEscapes (List.replicate m '\\'))
    rw [List.length_replicate] at hlen
    rw [shownPieces_cons, Piece.raw, shownText, Emoji.replaceCodes_eq_self hcolon, Text.dropControls]
    simp only [shownPieces, List.flatMap_nil, List.append_nil]
    omega

theorem shownPieces_tagPieces (position n : Nat) (body : Text) :
    shownPieces (tagPieces position n body) = shownPieces (backslashes (n / 2))
      ++ if n % 2 = 1 then shownText ('[' :: body ++ [']']) else [] := by
  rw [tagPieces, shownPieces_append]
  congr 1
  split <;> simp [shownPieces, Piece.raw, shownText_nil]

theorem shownPieces_textPieces (s : Text) : shownPieces (textPieces s) = shownText s := by
  cases s with
  | nil => rfl
  | cons c s => simp [textPieces, shownPieces, Piece.raw]

/-- Markup that shows a path as it is has found nothing in it. -/
theorem isPlain_of_shownPieces {path : Text} (h : IsOrdinary path)
    (hshown : shownPieces (pieces (Report.pathMarkup path)) = path) : IsPlain path := by
  obtain ⟨s, n, rfl, hlast⟩ := exists_append_backslashes path
  have hs : s <:+: s ++ List.replicate n '\\' := List.IsPrefix.isInfix ⟨_, rfl⟩
  have hraw : ∀ p ∈ piecesAfter 11 0 s, p.raw <:+: s ++ List.replicate n '\\' :=
    fun p hp => (raw_isInfix_of_mem hp).trans hs
  have hfront := h.length_shownPieces_le hraw
  have hfrontRaw := length_rawText_piecesAfter 11 0 s
  rw [pieces_pathMarkup n hlast, shownPieces_cons, shownPieces_append, Piece.raw, shownText_nil,
    List.nil_append, shownPieces_tagPieces] at hshown
  have hlength := congrArg List.length hshown
  rw [List.length_append, List.length_append, List.length_append, List.length_replicate] at hlength
  have hbackslashes := length_shownPieces_backslashes (n / 2)
  -- a closing tag that an odd backslash makes literal ends what is shown, and a pair shows one
  obtain rfl : n = 0 := by
    rcases Nat.mod_two_eq_zero_or_one n with heven | hodd
    · rw [heven, if_neg (by decide), List.length_nil] at hlength
      omega
    · obtain ⟨m, rfl⟩ : ∃ m, n = m + 1 := ⟨n - 1, by omega⟩
      rw [if_pos hodd, shownText_closingTag, List.replicate_succ', ← List.append_assoc,
        ← List.append_assoc, ← List.append_assoc] at hshown
      have hends := congrArg List.getLast? hshown
      rw [List.getLast?_concat, List.getLast?_concat] at hends
      exact absurd hends (by decide)
  have htags : ∀ v, v <:+ s → tagAt? v = none := by
    intro v hv
    refine tagAt?_eq_none_of_length 11 ?_ hv
    simp only [Nat.zero_mod, Nat.zero_ne_one, if_false, List.length_nil] at hlength
    omega
  rw [piecesAfter_of_tagAt?_eq_none htags, shownPieces_textPieces, h.shownText_eq hs] at hshown
  rw [List.replicate_zero, List.append_nil] at hshown ⊢
  have hescapes : Reading.dropEscapes s = s := by simpa [shownPieces, backslashes] using hshown
  exact ⟨noTag_iff.2 htags, Reading.dropEscapes_eq_self_iff.1 hescapes, hlast⟩

namespace Reading

theorem addPieces_textPieces (r : Reading) (s : Text) (found : List Piece) :
    r.addPieces (textPieces s ++ found) = (r.addText s).addPieces found := by
  cases s with
  | nil =>
    have hr : r.addText [] = r := by
      change { r with shown := { r.shown with text := r.shown.text ++ [] } } = r
      rw [List.append_nil]
    rw [hr]
    rfl
  | cons c s => rfl

theorem applyTag_of_opening (r : Reading) {body name normal : Text} {parameter : Option Text}
    (position : Nat) (hcut : Text.cutAt '=' body = (name, parameter)) (hslash : name.head? ≠ some '/')
    (hname : StyleName.normalize? name = some normal) :
    r.applyTag body position
      = .ok { r with opened := ⟨r.shown.text.length, normal, parameter⟩ :: r.opened } := by
  rw [applyTag, hcut]
  split
  · next heq =>
    rw [(Prod.mk.inj heq).1] at hslash
    exact absurd rfl hslash
  · next heq =>
    obtain ⟨rfl, rfl⟩ := Prod.mk.inj heq
    rw [hname]

theorem applyTag_of_closing (r : Reading) {body name : Text} {parameter : Option Text}
    {tag : OpenTag} {rest : List OpenTag} (position : Nat)
    (hcut : Text.cutAt '=' body = ('/' :: name, parameter))
    (hclose : close (Text.trim name) body position r.opened = .ok (tag, rest))
    (herror : tag.closingError? = none) :
    r.applyTag body position = .ok
      ⟨{ r.shown with spans := r.shown.spans ++ [tag.closed r.shown.text.length] }, rest⟩ := by
  rw [applyTag, hcut]
  simp only [hclose, herror]

end Reading

/-- The tag in front of a path, once it is open. -/
def openTag : OpenTag := ⟨0, openingBody, none⟩

theorem applyTag_openingBody :
    Reading.initial.applyTag openingBody 0 = .ok ⟨.plain [], [openTag]⟩ := by
  have hcut : Text.cutAt '=' openingBody = (openingBody, none) := by decide
  have hslash : openingBody.head? ≠ some '/' := by decide
  have hname : StyleName.normalize? openingBody = some openingBody := StyleName.normalize?_boldCyan
  rw [Reading.initial.applyTag_of_opening 0 hcut hslash hname]
  rfl

theorem applyTag_closingBody (s : Text) (position : Nat) :
    (Reading.mk ⟨s, [], none⟩ [openTag]).applyTag closingBody position
      = .ok ⟨⟨s, [⟨0, s.length, some openingBody⟩], none⟩, []⟩ := by
  have hcut : Text.cutAt '=' closingBody = ('/' :: openingBody, none) := by decide
  have htrim : Text.trim openingBody = openingBody := by decide
  have hname : StyleName.normalize? openingBody = some openingBody := StyleName.normalize?_boldCyan
  have hempty : openingBody.isEmpty = false := by decide
  have hclose : close (Text.trim openingBody) closingBody position [openTag] = .ok (openTag, []) := by
    rw [htrim, close, hempty, if_neg Bool.false_ne_true, hname]
    simp only [closeNamed?, openTag, if_true]
  have haction : openTag.isAction = false := by decide
  have herror : openTag.closingError? = none := by
    rw [OpenTag.closingError?, haction, if_neg Bool.false_ne_true]
  rw [Reading.applyTag_of_closing ⟨⟨s, [], none⟩, [openTag]⟩ position hcut hclose herror,
    OpenTag.closed, haction]
  rfl

/-- A plain path is shown as it is, in the style of its tags. -/
theorem render_pathMarkup {path : Text} (h : IsOrdinary path) (hplain : IsPlain path) :
    render (Report.pathMarkup path)
      = .ok ⟨path, [⟨0, path.length, some openingBody⟩], none⟩ := by
  have hpieces := pieces_pathMarkup 0 hplain.noFinalBackslash
  have hclosing : tagPieces (11 + path.length) 0 closingBody = [.tag closingBody (11 + path.length)] :=
    rfl
  have hshown : shownText path = path := by
    rw [h.shownText_eq List.infix_rfl, Reading.dropEscapes_eq_self_iff.2 hplain.noEscape]
  have hread : Reading.addText ⟨.plain [], [openTag]⟩ path = ⟨⟨path, [], none⟩, [openTag]⟩ := by
    change Reading.mk ⟨[] ++ shownText path, [], none⟩ [openTag] = _
    rw [hshown, List.nil_append]
  rw [List.replicate_zero, List.append_nil, hclosing,
    piecesAfter_of_tagAt?_eq_none (noTag_iff.1 hplain.noTag)] at hpieces
  rw [render, hpieces, Reading.addPieces, applyTag_openingBody]
  simp only [Reading.addPieces_textPieces, hread, Reading.addPieces, applyTag_closingBody]
  rfl

/-- Markup shows a path as it is if and only if the path is plain. -/
theorem shows_path_iff_isPlain {path : Text} (h : IsOrdinary path) :
    (∃ t, render (Report.pathMarkup path) = .ok t ∧ t.text = path) ↔ IsPlain path := by
  constructor
  · rintro ⟨t, ht, htext⟩
    rw [text_render ht] at htext
    exact isPlain_of_shownPieces h htext
  · intro hplain
    exact ⟨_, render_pathMarkup h hplain, rfl⟩

end Markup

end SuppressionAudit

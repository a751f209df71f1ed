import SuppressionAudit.Text

/-!
# Shapes of text

A shape says which texts may stand at a place: characters of a kind, runs of them, shapes in sequence,
choices in order of preference and repetitions. What is found is the first choice with which all that
follows can be found too; parts of it can be marked. Main statement: what is found ends at a place
further on in the same text.
-/

namespace SuppressionAudit

namespace Text

/-- A place in a text: the character before it, its offset, what follows it, and the parts that were
marked on the way to it, as pairs of offsets. -/
structure Place where
  before : Option Char
  offset : Nat
  rest : Text
  marks : List (Nat × Nat)
deriving DecidableEq, Repr

namespace Place

/-- The place after the next character, if that is accepted. -/
def step? (accepts : Char → Bool) (place : Place) : Option Place :=
  match place.rest with
  | [] => none
  | c :: rest =>
    if accepts c then some { place with before := some c, offset := place.offset + 1, rest } else none

/-- The place after all the accepted characters that come next, or after the first so many of them. -/
def skip (accepts : Char → Bool) (marks : List (Nat × Nat)) :
    Option Nat → Option Char → Nat → Text → Place
  | _, before, offset, [] => ⟨before, offset, [], marks⟩
  | most, before, offset, c :: rest =>
    if most != some 0 && accepts c then
      skip accepts marks (most.map (· - 1)) (some c) (offset + 1) rest
    else ⟨before, offset, c :: rest, marks⟩

/-- The places after runs of accepted characters, the longest run first, in front of places found
already. -/
def runs (accepts : Char → Bool) (marks : List (Nat × Nat)) :
    Option Char → Nat → Text → List Place → List Place
  | before, offset, [], found => ⟨before, offset, [], marks⟩ :: found
  | before, offset, c :: rest, found =>
    let found := ⟨before, offset, c :: rest, marks⟩ :: found
    if accepts c then runs accepts marks (some c) (offset + 1) rest found else found

/-- What is found after the shortest run of accepted characters that something is found after, of at
least so many. -/
def afterShortest (accepts : Char → Bool) (marks : List (Nat × Nat)) (next : Place → Option Place) :
    Nat → Option Char → Nat → Text → Option Place
  | least, before, offset, [] => if least = 0 then next ⟨before, offset, [], marks⟩ else none
  | least, before, offset, c :: rest =>
    match if least = 0 then next ⟨before, offset, c :: rest, marks⟩ else none with
    | some found => some found
    | none =>
      if accepts c then afterShortest accepts marks next (least - 1) (some c) (offset + 1) rest
      else none

/-- The place with the part from an offset up to it marked; an empty part is not marked. -/
def markFrom (start : Nat) (place : Place) : Place :=
  if start < place.offset then { place with marks := (start, place.offset) :: place.marks } else place

/-- A place from which another one is reached by reading on. -/
def Reaches (place next : Place) : Prop :=
  ∃ s, place.rest = s ++ next.rest ∧ next.offset = place.offset + s.length

end Place

/-- What may stand at a place: nothing; nothing, where a condition holds on the character before and
the text after it; one character; all accepted characters up to a number of them, unless they are too
few; at least so many of them, where the longest run is preferred; the same, where the shortest run is
preferred; one shape and then another; one shape or else another; a shape so many times, and then as
often as possible, or up to a number of times; or a shape whose text is marked. -/
inductive Shape where
  | nothing
  | here (holds : Option Char → Text → Bool)
  | one (accepts : Char → Bool)
  | all (accepts : Char → Bool) (least : Nat) (most : Option Nat)
  | longest (accepts : Char → Bool) (least : Nat)
  | shortest (accepts : Char → Bool) (least : Nat)
  | both (first second : Shape)
  | either (first second : Shape)
  | times (least : Nat) (more : Option Nat) (body : Shape)
  | marked (body : Shape)

namespace Shape

/-- Goes on with what stands a number of times in a row, and then at most once more for each character
of a text. -/
def followTimes (follow : (Place → Option Place) → Place → Option Place)
    (next : Place → Option Place) : Nat → Text → Place → Option Place
  | least + 1, more, place => follow (followTimes follow next least more) place
  | 0, _ :: more, place =>
    match follow (followTimes follow next 0 more) place with
    | some found => some found
    | none => next place
  | 0, [], place => next place

/-- Where what is found ends, when at a place there is a shape and then what `next` finds. -/
def follow : Shape → (Place → Option Place) → Place → Option Place
  | .nothing, next, place => next place
  | .here holds, next, place => if holds place.before place.rest then next place else none
  | .one accepts, next, place => (place.step? accepts).bind next
  | .all accepts least most, next, place =>
    let reached := Place.skip accepts place.marks most place.before place.offset place.rest
    if reached.offset < place.offset + least then none else next reached
  | .longest accepts least, next, place =>
    let places := Place.runs accepts place.marks place.before place.offset place.rest []
    (places.take (places.length - least)).findSome? next
  | .shortest accepts least, next, place =>
    Place.afterShortest accepts place.marks next least place.before place.offset place.rest
  | .both first second, next, place => first.follow (fun place => second.follow next place) place
  | .either first second, next, place =>
    match first.follow next place with
    | some found => some found
    | none => second.follow next place
  | .times least more body, next, place =>
    followTimes (fun next place => body.follow next place) next least
      (match more with
        | some more => place.rest.take more
        | none => place.rest)
      place
  | .marked body, next, place => body.follow (fun found => next (found.markFrom place.offset)) place

def sequence (shapes : List Shape) : Shape := shapes.foldr .both .nothing

/-- The first of some shapes that is found. -/
def oneOf (shapes : List Shape) : Shape := shapes.foldr .either (.here fun _ _ => false)

/-- A shape or nothing. -/
def optional (shape : Shape) : Shape := .either shape .nothing

def char (c : Char) : Shape := .one fun d => d == c

def exactly (s : String) : Shape := sequence (s.toList.map char)

/-- The marks in a text, where shapes are looked for from the front: the first one that is found at a
place is taken, and the search goes on after it. The first `inside` characters belong to what was
found before. -/
def marksAfter (shape : Shape) (found : List (Nat × Nat)) :
    Option Char → Nat → Nat → Text → List (Nat × Nat)
  | _, _, _, [] => found
  | _, offset, inside + 1, c :: rest => marksAfter shape found (some c) (offset + 1) inside rest
  | before, offset, 0, c :: rest =>
    match shape.follow some ⟨before, offset, c :: rest, []⟩ with
    | none => marksAfter shape found (some c) (offset + 1) 0 rest
    | some ended =>
      marksAfter shape (ended.marks ++ found) (some c) (offset + 1) (ended.offset - offset - 1) rest

def marks (shape : Shape) (s : Text) : List (Nat × Nat) := shape.marksAfter [] none 0 0 s

end Shape

/-! ### Reading on -/

namespace Place

theorem reaches_refl (place : Place) : place.Reaches place := ⟨[], by simp⟩

theorem Reaches.trans {a b c : Place} (hab : a.Reaches b) (hbc : b.Reaches c) : a.Reaches c := by
  obtain ⟨s, hs, hsOffset⟩ := hab
  obtain ⟨t, ht, htOffset⟩ := hbc
  exact ⟨s ++ t, by rw [hs, ht, List.append_assoc], by rw [htOffset, hsOffset, List.length_append]; omega⟩

theorem reaches_step {accepts : Char → Bool} {place next : Place}
    (h : place.step? accepts = some next) : place.Reaches next := by
  unfold step? at h
  split at h
  · simp at h
  · next c rest hRest =>
    split at h
    · cases h
      exact ⟨[c], by simp [hRest], by simp⟩
    · simp at h

theorem reaches_markFrom (start : Nat) (place : Place) : place.Reaches (place.markFrom start) := by
  unfold markFrom
  split
  · exact ⟨[], by simp⟩
  · exact reaches_refl place

theorem reaches_skip (accepts : Char → Bool) (marks : List (Nat × Nat)) (s : Text) (most : Option Nat)
    (before : Option Char) (offset : Nat) (place : Place) (hRest : place.rest = s)
    (hOffset : place.offset = offset) :
    place.Reaches (skip accepts marks most before offset s) := by
  induction s generalizing most before offset place with
  | nil => exact ⟨[], by simp [skip, hRest], by simp [skip, hOffset]⟩
  | cons c s ih =>
    unfold skip
    split
    · obtain ⟨t, ht, htOffset⟩ :=
        ih (most.map (· - 1)) (some c) (offset + 1) ⟨some c, offset + 1, s, marks⟩ rfl rfl
      exact ⟨c :: t, by rw [hRest]; exact congrArg (c :: ·) ht,
        by rw [htOffset, hOffset, List.length_cons]; simp only; omega⟩
    · exact ⟨[], by simp [hRest], by simp [hOffset]⟩

theorem reaches_runs (accepts : Char → Bool) (marks : List (Nat × Nat)) (start : Place) (s : Text)
    (before : Option Char) (offset : Nat) (found : List Place)
    (hPlace : start.Reaches ⟨before, offset, s, marks⟩) (hFound : ∀ p ∈ found, start.Reaches p) :
    ∀ p ∈ runs accepts marks before offset s found, start.Reaches p := by
  induction s generalizing before offset found with
  | nil =>
    intro p hp
    rcases List.mem_cons.1 hp with rfl | hp
    · exact hPlace
    · exact hFound p hp
  | cons c s ih =>
    have hCons : ∀ p ∈ ⟨before, offset, c :: s, marks⟩ :: found, start.Reaches p := by
      intro p hp
      rcases List.mem_cons.1 hp with rfl | hp
      · exact hPlace
      · exact hFound p hp
    intro p hp
    simp only [runs] at hp
    split at hp
    · exact ih _ _ _ (hPlace.trans ⟨[c], by simp, by simp⟩) hCons p hp
    · exact hCons p hp

theorem reaches_of_afterShortest {accepts : Char → Bool} {marks : List (Nat × Nat)}
    {next : Place → Option Place} {start found : Place} (s : Text) (least : Nat)
    (before : Option Char) (offset : Nat) (hPlace : start.Reaches ⟨before, offset, s, marks⟩)
    (h : afterShortest accepts marks next least before offset s = some found) :
    ∃ p, start.Reaches p ∧ next p = some found := by
  induction s generalizing least before offset with
  | nil =>
    simp only [afterShortest] at h
    split at h
    · exact ⟨_, hPlace, h⟩
    · simp at h
  | cons c s ih =>
    simp only [afterShortest] at h
    split at h
    · next hNext =>
      cases h
      split at hNext
      · exact ⟨_, hPlace, hNext⟩
      · simp at hNext
    · split at h
      · exact ih (least - 1) _ _ (hPlace.trans ⟨[c], by simp, by simp⟩) h
      · simp at h

end Place

namespace Shape

/-- What `next` is asked about lies further on. -/
def Advances (follow : (Place → Option Place) → Place → Option Place) : Prop :=
  ∀ next place found, follow next place = some found →
    ∃ p, place.Reaches p ∧ next p = some found

theorem advances_followTimes {follow : (Place → Option Place) → Place → Option Place}
    (h : Advances follow) (least : Nat) (more : Text) :
    Advances fun next place => followTimes follow next least more place := by
  intro next place found hFound
  induction least generalizing place with
  | succ least ih =>
    simp only [followTimes] at hFound
    obtain ⟨p, hp, hNext⟩ := h _ _ _ hFound
    obtain ⟨q, hq, hNext⟩ := ih p hNext
    exact ⟨q, hp.trans hq, hNext⟩
  | zero =>
    induction more generalizing place with
    | nil =>
      simp only [followTimes] at hFound
      exact ⟨place, place.reaches_refl, hFound⟩
    | cons c more ih =>
      simp only [followTimes] at hFound
      split at hFound
      · next found' hBody =>
        cases hFound
        obtain ⟨p, hp, hNext⟩ := h _ _ _ hBody
        obtain ⟨q, hq, hNext⟩ := ih p hNext
        exact ⟨q, hp.trans hq, hNext⟩
      · exact ⟨place, place.reaches_refl, hFound⟩

theorem advances_follow (shape : Shape) : Advances shape.follow := by
  induction shape with
  | nothing => exact fun next place found h => ⟨place, place.reaches_refl, h⟩
  | here holds =>
    intro next place found h
    simp only [follow] at h
    split at h
    · exact ⟨place, place.reaches_refl, h⟩
    · simp at h
  | one accepts =>
    intro next place found h
    obtain ⟨p, hStep, hNext⟩ := Option.bind_eq_some_iff.1 h
    exact ⟨p, Place.reaches_step hStep, hNext⟩
  | all accepts least most =>
    intro next place found h
    simp only [follow] at h
    split at h
    · simp at h
    · exact ⟨_, Place.reaches_skip accepts place.marks _ most place.before _ place rfl rfl, h⟩
  | longest accepts least =>
    intro next place found h
    obtain ⟨p, hMem, hNext⟩ := List.exists_of_findSome?_eq_some h
    exact ⟨p, Place.reaches_runs accepts place.marks place place.rest place.before place.offset []
      place.reaches_refl (by simp) p (List.mem_of_mem_take hMem), hNext⟩
  | shortest accepts least =>
    intro next place found h
    exact Place.reaches_of_afterShortest place.rest least place.before place.offset
      place.reaches_refl h
  | both first second ihFirst ihSecond =>
    intro next place found h
    obtain ⟨p, hp, hNext⟩ := ihFirst _ _ _ h
    obtain ⟨q, hq, hNext⟩ := ihSecond _ _ _ hNext
    exact ⟨q, hp.trans hq, hNext⟩
  | either first second ihFirst ihSecond =>
    intro next place found h
    simp only [follow] at h
    split at h
    · next hFirst =>
      cases h
      exact ihFirst _ _ _ hFirst
    · exact ihSecond _ _ _ h
  | times least more body ih =>
    intro next place found h
    exact advances_followTimes ih least _ next place found h
  | marked body ih =>
    intro next place found h
    obtain ⟨p, hp, hNext⟩ := ih _ _ _ h
    exact ⟨_, hp.trans (Place.reaches_markFrom _ p), hNext⟩

theorem reaches_of_follow {shape : Shape} {place found : Place}
    (h : shape.follow some place = some found) : place.Reaches found := by
  obtain ⟨p, hp, hFound⟩ := advances_follow shape _ _ _ h
  cases hFound
  exact hp

end Shape

end Text

end SuppressionAudit

import Listening.Match.Identity
import Mathlib.Data.List.Basic

/-!
# Plays as a source promises them

A source may say anything where a text or a number belongs, and what does
not fit is a fault once it is read. A source that keeps its promise is never
at fault: every label of its plays is a text or missing, every length a
number or missing. Such a play is `Play.Typed`, and for it the readings that
could fail are plain functions – `Play.identity` is the one that comparing
lists goes by.

One number is no use for comparing, the one that is no number: it is not
equal to itself. A typed play of any other length, or of none, is
`Play.Comparable`, and what it is a play of is a `Track` – an identity that
agrees with itself, so that equality of tracks is equality.
-/

namespace Listening

/-! ## Typed plays -/

/-- Whether a label is a text or missing. -/
def Label.isTextual : Label → Bool
  | .other _ => false
  | _ => true

/-- Whether an amount is a number or missing. -/
def Amount.isNumeric : Amount → Bool
  | .other (.int _) => true
  | .other (.bool _) => true
  | .other _ => false
  | _ => true

/-- **A play as a source promises it**: texts where texts belong, a number
where a number belongs. -/
structure Play.Typed (p : Play) : Prop where
  /-- The title is a text. -/
  title : p.title.isText = true
  /-- So is every artist. -/
  artists : ∀ a ∈ p.artists, a.isText = true
  /-- The album is a text or missing. -/
  album : p.album.isTextual = true
  /-- The length is a number or missing. -/
  duration : p.duration.isNumeric = true
  /-- The source is a text or missing. -/
  source : p.source.isTextual = true
  /-- The id of the track is a text or missing. -/
  trackId : p.trackId.isTextual = true

instance Play.decidableTyped (p : Play) : Decidable p.Typed :=
  decidable_of_iff
    (p.title.isText = true ∧ (∀ a ∈ p.artists, a.isText = true) ∧ p.album.isTextual = true
      ∧ p.duration.isNumeric = true ∧ p.source.isTextual = true ∧ p.trackId.isTextual = true)
    ⟨fun ⟨h₁, h₂, h₃, h₄, h₅, h₆⟩ => ⟨h₁, h₂, h₃, h₄, h₅, h₆⟩,
      fun h => ⟨h.title, h.artists, h.album, h.duration, h.source, h.trackId⟩⟩

/-! ## Labels and amounts -/

/-- The normal form of a label; what is no text has the empty one. -/
def Label.plain : Label → String
  | .text s => Text.normalize s
  | _ => ""

/-- A text is a text or missing. -/
theorem Label.isTextual_of_isText {l : Label} (h : l.isText = true) : l.isTextual = true := by
  cases l with
  | absent => rfl
  | text s => rfl
  | other v => exact absurd h Bool.false_ne_true

/-- The normal form of a text, or of nothing, is there. -/
theorem Label.normal?_of_isTextual {l : Label} (h : l.isTextual = true) :
    l.normal? = .ok l.plain := by
  cases l with
  | absent => rfl
  | text s => rfl
  | other v => exact absurd h Bool.false_ne_true

/-- A text is its own text. -/
theorem Label.text?_of_isText {l : Label} (h : l.isText = true) : ∃ s, l.text? = .ok s := by
  cases l with
  | absent => exact absurd h Bool.false_ne_true
  | text s => exact ⟨s, rfl⟩
  | other v => exact absurd h Bool.false_ne_true

/-- A text, or nothing, can be put in lower case. -/
theorem Label.lower?_of_isTextual {l : Label} (h : l.isTextual = true) :
    ∃ s, l.lower? = .ok s := by
  unfold Label.lower?
  cases l with
  | absent => exact ⟨"", rfl⟩
  | text s =>
    by_cases hs : (Label.text s).isGiven = true
    · exact ⟨_, if_pos hs⟩
    · exact ⟨_, if_neg hs⟩
  | other v => exact absurd h Bool.false_ne_true

/-- A text, or nothing, can label an entry of an index. -/
theorem Label.indexable_of_isTextual {l : Label} (h : l.isTextual = true) :
    l.toJson.indexable = true := by
  cases l with
  | absent => rfl
  | text s => rfl
  | other v => exact absurd h Bool.false_ne_true

/-- The key of a text, or of nothing, is not what is no number. -/
theorem Label.key_ne_undefined {l : Label} (h : l.isTextual = true) : l.key ≠ .undefined := by
  cases l with
  | absent => exact fun e => nomatch e
  | text s => exact fun e => nomatch e
  | other v => exact absurd h Bool.false_ne_true

/-- **What is a number, or nothing**, one way or another. -/
theorem Amount.isNumeric_cases {a : Amount} (h : a.isNumeric = true) :
    a = .absent ∨ (∃ x, a = .seconds x) ∨ (∃ n, a = .other (.int n))
      ∨ ∃ b, a = .other (.bool b) := by
  cases a with
  | absent => exact Or.inl rfl
  | seconds x => exact Or.inr (Or.inl ⟨x, rfl⟩)
  | other v =>
    cases v with
    | int n => exact Or.inr (Or.inr (Or.inl ⟨n, rfl⟩))
    | bool b => exact Or.inr (Or.inr (Or.inr ⟨b, rfl⟩))
    | null => exact absurd h Bool.false_ne_true
    | float x => exact absurd h Bool.false_ne_true
    | str s => exact absurd h Bool.false_ne_true
    | arr items => exact absurd h Bool.false_ne_true
    | obj fields => exact absurd h Bool.false_ne_true

/-- A number can label an entry of an index. -/
theorem Amount.indexable_of_isNumeric {a : Amount} (h : a.isNumeric = true) :
    a.toJson.indexable = true := by
  rcases isNumeric_cases h with rfl | ⟨x, rfl⟩ | ⟨n, rfl⟩ | ⟨b, rfl⟩ <;> rfl

/-- A number can be counted with. -/
theorem Amount.number?_of_isNumeric {a : Amount} (h : a.isNumeric = true) :
    ∃ x, a.number? = .ok x := by
  rcases isNumeric_cases h with rfl | ⟨x, rfl⟩ | ⟨n, rfl⟩ | ⟨b, rfl⟩ <;> exact ⟨_, rfl⟩

/-! ## Rows of readings -/

/-- What a reading delivers can be asked if values can. -/
instance decidableForallOk {α : Type} (x : Except Fault α) (P : α → Prop) [DecidablePred P] :
    Decidable (∀ a, x = .ok a → P a) :=
  match x with
  | .ok a => decidable_of_iff (P a)
    ⟨fun h _ hb => Except.ok.inj hb ▸ h, fun h => h a rfl⟩
  | .error _ => .isTrue fun _ h => nomatch h

/-- If one reading after another succeeds, both do. -/
theorem exists_of_bind_eq_ok {α β : Type} {x : Except Fault α} {f : α → Except Fault β} {b : β}
    (h : x.bind f = .ok b) : ∃ a, x = .ok a ∧ f a = .ok b := by
  cases x with
  | error e => exact nomatch h
  | ok a => exact ⟨a, rfl, h⟩

/-- **A reading that never fails on a row reads the row.** -/
theorem mapM_eq_ok {α β : Type} {f : α → Except Fault β} {g : α → β} {as : List α}
    (h : ∀ a ∈ as, f a = .ok (g a)) : as.mapM f = .ok (as.map g) := by
  induction as with
  | nil => rfl
  | cons a rest ih =>
    have hrest : rest.mapM f = .ok (rest.map g) :=
      ih (fun b hb => h b (List.mem_cons_of_mem a hb))
    rw [List.mapM_cons, h a List.mem_cons_self, hrest]
    rfl

/-- A reading that never fails on a row delivers a row. -/
theorem exists_mapM_eq_ok {α β : Type} {f : α → Except Fault β} {as : List α}
    (h : ∀ a ∈ as, ∃ b, f a = .ok b) : ∃ bs, as.mapM f = .ok bs := by
  induction as with
  | nil => exact ⟨[], rfl⟩
  | cons a rest ih =>
    obtain ⟨b, hb⟩ := h a List.mem_cons_self
    obtain ⟨bs, hbs⟩ := ih (fun c hc => h c (List.mem_cons_of_mem a hc))
    refine ⟨b :: bs, ?_⟩
    rw [List.mapM_cons, hb, hbs]
    rfl

/-- What a reading of a row delivers is what is read off its items. -/
theorem map_eq_of_mapM_eq_ok {α β : Type} {f : α → Except Fault β} {as : List α} {bs : List β}
    (h : as.mapM f = .ok bs) : as.map f = bs.map .ok := by
  induction as generalizing bs with
  | nil =>
    obtain rfl := Except.ok.inj h
    rfl
  | cons a rest ih =>
    rw [List.mapM_cons] at h
    cases ha : f a with
    | error e => rw [ha] at h; exact nomatch h
    | ok b =>
      cases hrest : rest.mapM f with
      | error e => rw [ha, hrest] at h; exact nomatch h
      | ok bs' =>
        rw [ha, hrest] at h
        obtain rfl := Except.ok.inj h
        rw [List.map_cons, List.map_cons, ha, ih hrest]

/-- A reading of a row goes by what is read off its items. -/
theorem mapM_eq_mapM_id {α β : Type} (f : α → Except Fault β) (as : List α) :
    as.mapM f = (as.map f).mapM id := by
  rw [List.mapM_map]
  rfl

/-- Rows off whose items the same is read are read alike. -/
theorem mapM_congr {α β : Type} {f : α → Except Fault β} {as bs : List α}
    (h : as.map f = bs.map f) : as.mapM f = bs.mapM f := by
  rw [mapM_eq_mapM_id, h, ← mapM_eq_mapM_id]

/-- What is read off the items is read off the row. -/
theorem mapM_eq_ok_of_map_eq {α β : Type} {f : α → Except Fault β} {as : List α} {bs : List β}
    (h : as.map f = bs.map .ok) : as.mapM f = .ok bs := by
  rw [mapM_eq_mapM_id, h, ← mapM_eq_mapM_id]
  exact (mapM_eq_ok (g := id) fun b _ => rfl).trans (congrArg Except.ok (List.map_id bs))

/-- Each of what is read off a row is read off some item. -/
theorem exists_mem_of_mapM_eq_ok {α β : Type} {f : α → Except Fault β}
    {as : List α} {bs : List β}
    (h : as.mapM f = .ok bs) {b : β} (hb : b ∈ bs) : ∃ a ∈ as, f a = .ok b :=
  List.mem_map.mp (map_eq_of_mapM_eq_ok h ▸ List.mem_map_of_mem hb)

/-- What is read off an item is part of it. -/
theorem mem_of_mapM_eq_ok {α β : Type} {f : α → Except Fault β} {as : List α} {bs : List β}
    (h : as.mapM f = .ok bs) {a : α} (ha : a ∈ as) {b : β} (hab : f a = .ok b) : b ∈ bs := by
  have hmem : f a ∈ bs.map Except.ok := map_eq_of_mapM_eq_ok h ▸ List.mem_map_of_mem ha
  obtain ⟨b', hb', hok⟩ := List.mem_map.mp hmem
  obtain rfl := Except.ok.inj (hok.trans hab)
  exact hb'

/-! ## What a typed play is a play of -/

namespace Play

/-- The identity of a play whose labels are texts or missing. -/
def identity (p : Play) : Identity :=
  ⟨p.trackId.key, p.title.plain,
    (p.artists.map Label.plain).mergeSort fun a b => decide (a ≤ b), p.album.plain,
    p.duration.key⟩

/-- **A typed play has an identity.** -/
theorem Typed.identity?_eq {p : Play} (h : p.Typed) : p.identity? = .ok p.identity := by
  have hartists : p.artists.mapM Label.normal? = .ok (p.artists.map Label.plain) :=
    mapM_eq_ok (fun a ha => Label.normal?_of_isTextual
      (Label.isTextual_of_isText (h.artists a ha)))
  unfold identity?
  rw [Label.normal?_of_isTextual (Label.isTextual_of_isText h.title), hartists,
    Label.normal?_of_isTextual h.album]
  rfl

/-- A typed play can be a label of an index. -/
theorem Typed.label?_eq {p : Play} (h : p.Typed) : p.label? = .ok p.identity := by
  unfold label?
  rw [h.identity?_eq, Label.indexable_of_isTextual h.trackId,
    Amount.indexable_of_isNumeric h.duration]
  rfl

/-- A typed play can be described. -/
theorem Typed.exists_describe? {p : Play} (h : p.Typed) : ∃ line, p.describe? = .ok line := by
  obtain ⟨texts, htexts⟩ : ∃ texts, p.artists.mapM Label.text? = .ok texts :=
    exists_mapM_eq_ok (fun a ha => Label.text?_of_isText (h.artists a ha))
  unfold describe? credit?
  rw [htexts]
  exact ⟨_, rfl⟩

/-- **A typed play whose length, if it has one, is a number to compare by.** -/
structure Comparable (p : Play) : Prop extends p.Typed where
  /-- The length is not what is no number. -/
  lengthDefined : p.duration.key ≠ .undefined

instance decidableComparable (p : Play) : Decidable p.Comparable :=
  decidable_of_iff (p.Typed ∧ p.duration.key ≠ .undefined)
    ⟨fun ⟨h₁, h₂⟩ => ⟨h₁, h₂⟩, fun h => ⟨h.toTyped, h.lengthDefined⟩⟩

/-- The identity of a comparable play agrees with itself. -/
theorem Comparable.isDefined {p : Play} (h : p.Comparable) : p.identity.isDefined = true := by
  unfold Identity.isDefined
  exact decide_eq_true ⟨Label.key_ne_undefined h.trackId, h.lengthDefined⟩

end Play

/-! ## Tracks -/

/-- **A track**: an identity that agrees with itself. -/
@[ext] structure Track where
  /-- What identifies it. -/
  identity : Identity
  /-- It agrees with itself. -/
  isDefined : identity.isDefined = true

namespace Track

instance : BEq Track := ⟨fun a b => a.identity == b.identity⟩

instance : LawfulBEq Track where
  eq_of_beq {a b} h := Track.ext ((Identity.beq_iff a.identity b.identity).mp h).1
  rfl {a} := (Identity.beq_iff a.identity a.identity).mpr ⟨rfl, a.isDefined⟩

instance : DecidableEq Track := instDecidableEqOfLawfulBEq

end Track

/-- **A play that can be compared with others.** -/
abbrev ComparablePlay : Type := { p : Play // p.Comparable }

namespace ComparablePlay

/-- What a play is a play of. -/
def track (p : ComparablePlay) : Track := ⟨p.1.identity, p.2.isDefined⟩

/-- The plays of a list. -/
def plays (ps : List ComparablePlay) : List Play := ps.map Subtype.val

/-- What the plays of a list are plays of. -/
def tracks (ps : List ComparablePlay) : List Track := ps.map track

@[simp] theorem length_plays (ps : List ComparablePlay) : (plays ps).length = ps.length :=
  List.length_map ..

@[simp] theorem length_tracks (ps : List ComparablePlay) : (tracks ps).length = ps.length :=
  List.length_map ..

theorem plays_reverse (ps : List ComparablePlay) : plays ps.reverse = (plays ps).reverse :=
  List.map_reverse ..

@[simp] theorem tracks_reverse (ps : List ComparablePlay) :
    tracks ps.reverse = (tracks ps).reverse :=
  List.map_reverse ..

/-- The labels of comparable plays are their tracks. -/
theorem mapM_label? (ps : List ComparablePlay) :
    (plays ps).mapM Play.label? = .ok ((tracks ps).map Track.identity) := by
  rw [mapM_eq_ok (g := Play.identity)]
  · simp only [plays, tracks, List.map_map]
    rfl
  · intro p hp
    obtain ⟨q, -, rfl⟩ := List.mem_map.mp hp
    exact q.2.toTyped.label?_eq

/-- The identities of comparable plays are those of their tracks. -/
theorem mapM_identity? (ps : List ComparablePlay) :
    (plays ps).mapM Play.identity? = .ok ((tracks ps).map Track.identity) := by
  rw [mapM_eq_ok (g := Play.identity)]
  · simp only [plays, tracks, List.map_map]
    rfl
  · intro p hp
    obtain ⟨q, -, rfl⟩ := List.mem_map.mp hp
    exact q.2.toTyped.identity?_eq

end ComparablePlay

end Listening

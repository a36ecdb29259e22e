import Listening.Play

/-!
# The identity of a track

A list of plays is compared with an earlier one by what was played and not
by when. The `Identity` of a play is what counts there: the id the source
gives the track, title, artists and album in normal form, and the length.

A length that is no number is not even equal to itself, so a play with such
a length is like no other.
-/

namespace Listening

/-- **What was played**, regardless of when. -/
structure Identity where
  /-- What the source calls the track. -/
  trackId : Json.Key
  /-- The title in normal form. -/
  title : String
  /-- The artists in normal form, in order. -/
  artists : List String
  /-- The album in normal form. -/
  album : String
  /-- The length of the track. -/
  duration : Json.Key

/-- Whether two keys agree: what is no number agrees with nothing. -/
def Json.Key.agrees (a b : Json.Key) : Bool := a = b ∧ a ≠ .undefined

instance : BEq Identity where
  beq a b :=
    a.trackId.agrees b.trackId && a.title == b.title && a.artists == b.artists
      && a.album == b.album && a.duration.agrees b.duration

namespace Identity

/-- Whether an identity agrees with itself: neither its id nor its length is
what is no number. -/
def isDefined (i : Identity) : Bool :=
  i.trackId ≠ .undefined ∧ i.duration ≠ .undefined

/-- Identities agree if they are the same and defined. -/
theorem beq_iff (a b : Identity) : (a == b) = true ↔ a = b ∧ a.isDefined = true := by
  obtain ⟨i, t, as, al, d⟩ := a
  obtain ⟨i', t', as', al', d'⟩ := b
  show (i.agrees i' && t == t' && as == as' && al == al' && d.agrees d') = true ↔ _
  simp only [Json.Key.agrees, isDefined, Identity.mk.injEq, Bool.and_eq_true,
    decide_eq_true_eq, beq_iff_eq]
  constructor
  · rintro ⟨⟨⟨⟨⟨h1, h2⟩, h3⟩, h4⟩, h5⟩, h6, h7⟩
    exact ⟨⟨h1, h3, h4, h5, h6⟩, h2, h7⟩
  · rintro ⟨⟨h1, h2, h3, h4, h5⟩, h6, h7⟩
    exact ⟨⟨⟨⟨⟨h1, h6⟩, h2⟩, h3⟩, h4⟩, h5, h7⟩

end Identity

namespace Play

/-- **The identity of a play.** -/
def identity? (p : Play) : Except Fault Identity := do
  let title ← p.title.normal?
  let artists ← p.artists.mapM Label.normal?
  let album ← p.album.normal?
  .ok ⟨p.trackId.key, title, artists.mergeSort fun a b => decide (a ≤ b), album, p.duration.key⟩

/-- The identity of a play as the label of an entry in an index, which a
list or an object cannot be part of. -/
def label? (p : Play) : Except Fault Identity := do
  let identity ← p.identity?
  if p.trackId.toJson.indexable && p.duration.toJson.indexable then .ok identity
  else .error .notIndexable

end Play

end Listening

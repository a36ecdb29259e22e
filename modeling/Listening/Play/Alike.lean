import Listening.Play

/-!
# Equal plays

Two plays are alike if all that is known of them is equal: numbers by what
they stand for, times as points in time, stretches of listening if they are
one event. What is no number is equal to nothing.
-/

namespace Listening.Play

/-- Whether two rows of labels are equal. -/
def alikeLabels : List Label → List Label → Bool
  | [], [] => true
  | a :: as, b :: bs => a.alike b && alikeLabels as bs
  | _, _ => false

/-- Whether two times that may be missing are equal. -/
def alikeTimes : Option Instant → Option Instant → Bool
  | none, none => true
  | some a, some b => a.same b
  | _, _ => false

/-- Whether two rows of ranges are of the same events, one by one. -/
def alikeStretches : List Range → List Range → Bool
  | [], [] => true
  | r :: rs, s :: ss => r.isOneWith s && alikeStretches rs ss
  | _, _ => false

/-- Whether two rows of ranges that may be missing are equal. -/
def alikeRanges : Option (List Range) → Option (List Range) → Bool
  | none, none => true
  | some rs, some ss => alikeStretches rs ss
  | _, _ => false

/-- **Whether all that is known of two plays is equal.** -/
def alike (a b : Play) : Bool :=
  a.title.alike b.title
    && alikeLabels a.artists b.artists
    && a.album.alike b.album
    && a.duration.toJson.alike b.duration.toJson
    && alikeTimes a.playedAt b.playedAt
    && a.listenedFor.toJson.alike b.listenedFor.toJson
    && alikeRanges a.ranges b.ranges
    && a.source.alike b.source
    && a.trackId.alike b.trackId
    && (Json.obj a.names).alike (.obj b.names)
    && (Amount.ofSeconds? a.position).toJson.alike (Amount.ofSeconds? b.position).toJson
    && a.device.alike b.device
    && a.user.alike b.user
    && a.isNew == b.isNew
    && a.isFilledIn == b.isFilledIn

end Listening.Play

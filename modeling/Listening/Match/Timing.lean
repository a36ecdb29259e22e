import Listening.Play

/-!
# The same time

How closely do the times of two plays line up? Within a second they are one
and the same, within a threshold close. Failing that, the second may have
begun while the first was being listened to, or the two may be a track's
length apart, as one source reports the start of a play and another its end.

The threshold is wider for sources that report times to the minute only.
-/

namespace Listening.Match

/-- **How closely two times line up.** -/
inductive Accuracy where
  /-- Within a second. -/
  | exact
  /-- Within the threshold. -/
  | close
  /-- About one length of the track apart. -/
  | fuzzy
  /-- The second lies in a window that the first opens. -/
  | during
  /-- Not at all. -/
  | none
  deriving DecidableEq, Repr

/-- **What a comparison of times goes by.** -/
structure Timing where
  /-- The threshold, where it is not the one of the source. -/
  threshold : Option Float := Option.none
  /-- Whether times that lie the time listened apart count too. -/
  fuzzyListened : Bool := false
  /-- How far from a length apart is still a length apart. -/
  fuzzyThreshold : Float := 10
  /-- The windows that are looked into, by name. -/
  windows : List String := ["range"]

/-- **The outcome of a comparison of times.** -/
structure Comparison where
  /-- How closely the times line up. -/
  accuracy : Accuracy := .none
  /-- The seconds between them, if both plays have a time. -/
  apart : Option Float := Option.none
  /-- The threshold applied. -/
  threshold : Option Float := Option.none
  /-- How far from one length of the track apart they are. -/
  fromLength : Option Float := Option.none
  /-- The window in which the second time lies. -/
  window : Option (String × Instant × Instant) := Option.none

/-- The sources that report times to the minute only. -/
def coarseSources : List String := ["subsonic", "ytmusic"]

/-- The threshold for most sources, in seconds. -/
def threshold : Float := 10

/-- The threshold for a source that reports times to the minute. -/
def coarseThreshold : Float := 60

/-- The threshold for a play already known. -/
def thresholdOf? (timing : Timing) (known : Play) : Except Fault Float :=
  match timing.threshold with
  | some x => .ok x
  | none => do
    let source ← known.source.lower?
    .ok (if coarseSources.contains source then coarseThreshold else threshold)

/-- Whether an instant lies between two others and is neither. -/
def between? (t start stop : Instant) : Except Fault Bool := do
  if ← start.before? t then t.before? stop else .ok false

/-- The first of the ranges in which an instant lies. -/
def inRanges? (t : Instant) : List Range → Except Fault (Option (String × Instant × Instant))
  | [] => .ok none
  | r :: rest => do
    if ← between? t r.start.time r.stop.time then .ok (some ("range", r.start.time, r.stop.time))
    else inRanges? t rest

/-- The window of a given length from an instant on, if another lies in
it. -/
def inWindow? (name : String) (length : Amount) (start t : Instant) :
    Except Fault (Option (String × Instant × Instant)) := do
  match ← length.number? with
  | none => .ok none
  | some seconds =>
    let stop ← start.shift? (← Instant.span? seconds)
    .ok (if ← between? t start stop then some (name, start, stop) else none)

/-- The first of the windows asked for in which an instant lies. -/
def inAnyWindow? (timing : Timing) (known : Play) (start t : Instant) :
    Except Fault (Option (String × Instant × Instant)) := do
  let ranges := if timing.windows.contains "range" then known.ranges.getD [] else []
  match ← inRanges? t ranges with
  | some found => .ok (some found)
  | none =>
    let listened ←
      if timing.windows.contains "listenedFor" then
        inWindow? "listenedFor" known.listenedFor start t
      else .ok none
    match listened with
    | some found => .ok (some found)
    | none =>
      if timing.windows.contains "duration" then inWindow? "duration" known.duration start t
      else .ok none

/-- **Compares the times of a play already known and of one that is
considered.** Without two times there is nothing to compare. -/
def compare? (known other : Play) (timing : Timing := {}) : Except Fault Comparison :=
  match known.playedAt, other.playedAt with
  | some start, some t => do
    let threshold ← thresholdOf? timing known
    let micros := (← start.minus? t).natAbs
    let apart := Instant.seconds micros
    let found : Comparison := { apart := some apart, threshold := some threshold }
    if (micros : Int) ≤ Instant.second then .ok { found with accuracy := .exact }
    else if apart ≤ threshold then .ok { found with accuracy := .close }
    else
      match ← inAnyWindow? timing known start t with
      | some window => .ok { found with accuracy := .during, window := some window }
      | none =>
        let fromLength := (← (other.duration.orElse known.duration).number?).map
          fun length => (apart - length).abs
        let found := { found with fromLength := fromLength }
        let isFuzzy (x : Option Float) := match x with
          | some x => decide (x ≤ timing.fuzzyThreshold)
          | none => false
        if isFuzzy fromLength then .ok { found with accuracy := .fuzzy }
        else if !timing.fuzzyListened then .ok found
        else
          let fromListened := (← (other.listenedFor.orElse known.listenedFor).number?).map
            fun listened => (apart - listened).abs
          .ok (if isFuzzy fromListened then { found with accuracy := .fuzzy } else found)
  | _, _ => .ok {}

end Listening.Match

import Listening.Instant
import Listening.Step

/-!
# Listen ranges

A player is seen now and then. An `Observation` is one sighting of a track:
when, and how far into the track. A `Range` is one stretch of listening
without a break, from a first to a last observation; it is opened with both
the same, and every later sighting moves its end.

A sighting further ahead than time allows, or behind the last one, is a
**seek**: the listener moved within the track, and the range has ended.

A range is an event of its own. However much it grows, it stays the same one,
and another one is different even between the same observations; its `Origin`
tells them apart.
-/

namespace Listening

/-- **One sighting of a playing track.** -/
structure Observation where
  /-- When. -/
  time : Instant
  /-- How many seconds into the track, if the player tells. -/
  position : Option Float := none
  /-- How far into the track in percent, if the player tells. -/
  percent : Option Float := none

/-- **What an end of a range is set to**: an observation, or the parts of one,
any of which may be missing. -/
inductive Told where
  /-- An observation. -/
  | whole (o : Observation)
  /-- The parts of one. -/
  | parts (time : Option Instant) (position percent : Option Float)

/-- The observation told of. A missing time is the present one. -/
def Told.observed (now : Instant) : Told → Observation
  | .whole o => o
  | .parts time position percent => ⟨time.getD now, position, percent⟩

/-- How far, in seconds, a position may run ahead of real time. -/
def defaultDrift : Float := 2.5

/-- **Where a stretch comes from**: the player that opened it, by its platform
and the time from which on there was that player, and how many it had opened
before. -/
structure Range.Origin where
  /-- The platform of the player. -/
  platform : String
  /-- Since when there was the player. -/
  created : Instant
  /-- How many stretches it had opened before. -/
  number : Nat
  deriving DecidableEq

/-- **One stretch of listening.** -/
structure Range where
  /-- The first observation. -/
  start : Observation
  /-- The last one. -/
  stop : Observation
  /-- How far, in seconds, a position may run ahead of real time. -/
  drift : Float := defaultDrift
  /-- Where it comes from, if a player has opened it. -/
  origin : Option Range.Origin := none

namespace Range

/-- A range that begins with an observation, and ends with it so far. -/
def opened (o : Observation) (drift : Float := defaultDrift) (origin : Option Origin := none) :
    Range := ⟨o, o, drift, origin⟩

/-- A range between two observations. The second may not be before the
first. -/
def between? (start stop : Observation) (drift : Float := defaultDrift) :
    Except Fault Range := do
  if ← stop.time.before? start.time then .error .endsBeforeStart
  else .ok { start := start, stop := stop, drift := drift }

/-- **Whether two ranges are one event.** A range of unknown origin is no other
one. -/
def isOneWith (r s : Range) : Bool := r.origin.isSome && r.origin == s.origin

/-- Whether both ends have a position. -/
def isPositional (r : Range) : Bool := r.start.position.isSome && r.stop.position.isSome

/-- Whether nothing has happened since the range was opened: by position if
both ends have one, else by time. -/
def isInitial (r : Range) : Bool :=
  match r.start.position, r.stop.position with
  | some a, some b => a == b
  | _, _ => r.start.time.same r.stop.time

/-- The last known position. -/
def position (r : Range) : Option Float := r.stop.position

/-- The real time between the two ends, in microseconds. -/
def wallclock (r : Range) : Int := r.stop.time.minus r.start.time

/-- How long a stretch took, if its two ends can be compared. -/
def wallclock? (r : Range) : Except Fault Int := r.stop.time.minus? r.start.time

/-- The seconds covered: by position if both ends have one, else by time. -/
def duration? (r : Range) : Except Fault Float :=
  match r.start.position, r.stop.position with
  | some a, some b => .ok (b - a)
  | _, _ => r.wallclock?.map Instant.seconds

/-- **Whether a new position means that the listener moved within the
track**, and by how many seconds: back from the last position, or further
ahead than the time since then and the drift allow. Nothing can be said
without positions, or before the range has gone on. -/
def seek? (r : Range) (position : Option Float) (reported : Instant) :
    Except Fault (Option Float) :=
  match position with
  | none => .ok none
  | some p =>
    if !r.isPositional || r.isInitial then .ok none
    else
      let last := r.stop.position.getD 0
      let moved := p - last
      if p < last then .ok (some moved)
      else do
        let passed := Instant.seconds (← reported.minus? r.stop.time) * 1000
        let real := if 0 < passed then passed else 0
        .ok (if r.drift * 1000 < moved * 1000 - real then some moved else none)

/-- The range with another first observation. -/
def setStart (r : Range) (o : Observation) : Range := { r with start := o }

/-- The range with another last observation, which may not be before the
first. -/
def setStop? (r : Range) (o : Observation) : Except Fault Range := do
  if ← o.time.before? r.start.time then .error .endsBeforeStart
  else .ok { r with stop := o }

/-- The range with its last position settled, if one is given. -/
def finalize (r : Range) : Option Float → Range
  | none => r
  | some p => { r with stop := { r.stop with position := some p } }

/-- **What changes a range.** -/
inductive Call where
  /-- Another first observation. -/
  | setStart (told : Told)
  /-- Another last one. -/
  | setStop (told : Told)
  /-- The last position is settled, if one is given. -/
  | finalize (position : Option Float)

/-- **One call at a time.** -/
def perform (now : Instant) (r : Range) : Call → Step Range Unit
  | .setStart told => .ok () (r.setStart (told.observed now))
  | .setStop told =>
    match r.setStop? (told.observed now) with
    | .ok r' => .ok () r'
    | .error f => .fail f r
  | .finalize position => .ok () (r.finalize position)

/-- An opened range covers no time. -/
@[simp] theorem wallclock_opened (o : Observation) (d : Float) (origin : Option Origin) :
    (opened o d origin).wallclock = 0 := by
  simp [opened, wallclock, Instant.minus]

/-- A settled position leaves the times as they are. -/
@[simp] theorem wallclock_finalize (r : Range) (p : Option Float) :
    (r.finalize p).wallclock = r.wallclock := by
  cases p <;> rfl

end Range

end Listening

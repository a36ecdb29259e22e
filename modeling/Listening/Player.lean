import Listening.Match.Content
import Listening.Step
import Listening.Threshold

/-!
# Players

A source is asked now and then what its players play. A `Player` puts the
answers together: it tracks one play at a time and keeps the stretches in
which that play was heard, the closed ones and the one still open.

What a player is told comes in through `report`, which is `observe` when a
track is shown. The play tracked so far ends, and is handed out as
*finished*, when another track is shown, when the track begins again, or
when the player stops. `checkStale` closes the open stretch of a player of
which nothing was heard for too long.

Every operation is given the time at which it happens. A clock that goes
back never makes a stretch shorter: its end is held.

A player also counts the plays it has begun to track and the stretches it has
opened, and keeps the play before as it was left. No operation goes by that;
it tells one play from the next where the same track begins again, and one
stretch from another.
-/

namespace Listening

/-- **The limits a player goes by**, in seconds. -/
structure Player.Limits where
  /-- After this long without news of the play, its stretch is closed. -/
  stale : Float := 120
  /-- After this long without any news, the player counts as gone; after
  twice as long, for good. -/
  orphaned : Float := 300
  /-- How far a position may run ahead of real time. -/
  drift : Float := defaultDrift
  /-- When a position is close to an end of the track, and when a repeat
  counts. -/
  positions : Threshold.Positions := {}

/-- **One player and the play it tracks.** -/
structure Player where
  /-- Where it is. -/
  platform : Platform
  /-- The limits it goes by. -/
  limits : Player.Limits := {}
  /-- What it said it was doing. -/
  status : Status := .unknown
  /-- The play tracked, as it was first reported. -/
  current : Option Play := none
  /-- Since when that play is tracked. -/
  firstSeen : Option Instant := none
  /-- When it was last reported. -/
  updated : Option Instant := none
  /-- When anything was last reported. -/
  heard : Instant
  /-- The closed stretches of the play, the earliest first. -/
  closed : List Range := []
  /-- The stretch that goes on. -/
  opened : Option Range := none
  /-- Whether the open stretch was closed for want of news. -/
  isStale : Bool := false
  /-- Since when there is this player. -/
  created : Instant
  /-- How many stretches it has opened. -/
  stretches : Nat := 0
  /-- How many plays it has begun to track. -/
  begun : Nat := 0
  /-- The play tracked before, as it was when it was replaced or forgotten. -/
  former : Option Play := none

namespace Player

/-- A player of which nothing is known yet. -/
def fresh (platform : Platform) (limits : Limits) (now : Instant) : Player where
  platform := platform
  limits := limits
  heard := now
  created := now

/-! ## What a player knows -/

/-- All stretches of the play tracked, the open one last. -/
def ranges (p : Player) : List Range := p.closed ++ p.opened.toList

/-- How long the play was heard, in microseconds. -/
def listenedMicros (p : Player) : Int := p.ranges.foldr (fun r sum => r.wallclock + sum) 0

/-- How long the play was heard, in seconds: the sum of the stretches as
seconds, from the first on. -/
def listened (p : Player) : Float :=
  p.ranges.foldl (fun sum r => sum + Instant.seconds r.wallclock) 0

/-- **The play tracked**, with the time since when and the stretches in which
it was heard. -/
def played (p : Player) : Option Play :=
  p.current.map fun play =>
    { play with playedAt := p.firstSeen, listenedFor := .seconds p.listened, ranges := p.ranges }

/-- The last known position. A player that has stopped has none. -/
def position (p : Player) : Option Float :=
  if p.status = .stopped then none else p.ranges.getLast?.bind Range.position

/-- The seconds since an instant. -/
def since (now t : Instant) : Float := Instant.seconds (now.minus t)

/-- Whether there was no news of the play for too long – or the clock was
changed by as much. -/
def isUpdateStale (p : Player) (now : Instant) : Bool :=
  match p.current, p.updated with
  | some _, some t => decide (p.limits.stale < (since now t).abs)
  | _, _ => false

/-- Whether the player counts as gone. -/
def isOrphaned (p : Player) (now : Instant) : Bool :=
  decide (p.limits.orphaned ≤ since now p.heard)

/-- Whether the player counts as gone for good. -/
def isDead (p : Player) (now : Instant) : Bool :=
  decide (p.limits.orphaned * 2 ≤ since now p.heard)

/-! ## Stretches -/

/-- Seconds before the end of a track from which on a stretch counts as
having reached it. -/
def endTolerance : Float := 3

/-- Where the stretch comes from that is opened next. -/
def nextOrigin (p : Player) : Range.Origin := ⟨p.platform.name, p.created, p.stretches⟩

/-- Opens a stretch that begins now. -/
def openRange (position : Option Float) (now : Instant) (p : Player) : Player :=
  { p with
    opened := some (.opened ⟨now, position, none⟩ p.limits.drift p.nextOrigin)
    stretches := p.stretches + 1 }

/-- A stretch with its last position settled: close to the end of the track
it is the end. -/
def settled? (p : Player) (r : Range) : Except Fault Range :=
  match p.current, r.position with
  | some play, some last => do
    match ← play.duration.number? with
    | some length => .ok (if length - last < endTolerance then r.finalize length else r)
    | none => .ok r
  | _, _ => .ok r

/-- **Closes the open stretch.** One that covers no time is dropped. -/
def closeRange (p : Player) : Step Player Unit :=
  match p.opened with
  | none => .ok () p
  | some r =>
    if 0 < r.wallclock then
      match p.settled? r with
      | .ok r => .ok () { p with closed := p.closed ++ [r], opened := none }
      | .error e => .fail e p
    else .ok () { p with opened := none }

/-- The time to which a stretch is extended now: never back before its
end. -/
def heldTime (r : Range) (now : Instant) : Instant :=
  if now.micros < r.stop.time.micros then r.stop.time else now

/-- Extends the open stretch to now. -/
def extend (r : Range) (position : Option Float) (now : Instant) (p : Player) :
    Step Player Unit :=
  match r.setStop? ⟨heldTime r now, position, none⟩ with
  | .ok r => .ok () { p with opened := some r }
  | .error e => .fail e p

/-! ## Plays -/

/-- **Begins to track a play.** If the player plays, a stretch is opened, at
the position given or else the one reported with the play. -/
def begin (play : Play) (position : Option Float) (now : Instant) (p : Player) :
    Step Player Unit :=
  let p :=
    { p with
      current := some play
      firstSeen := some now
      closed := []
      opened := none
      begun := p.begun + 1
      former := p.played }
  (Step.of play.describe? p).andThen fun _ p =>
    if p.status = .playing then .ok () (p.openRange (position <|> play.position) now)
    else .ok () p

/-- Forgets the play tracked. -/
def clear (p : Player) : Player :=
  { p with
    current := none
    firstSeen := none
    updated := none
    closed := []
    opened := none
    former := p.played }

/-- Marks the player as stopped and closes the open stretch. -/
def stop (now : Instant) (p : Player) : Step Player Unit :=
  { p with status := .stopped, updated := some now }.closeRange

/-- Whether a position behind the last one means that the track began again:
it is close to the start, and the last one was close to the end or enough of
the track was heard. -/
def isRepeat? (p : Player) (play : Play) (r : Range) (position : Float) : Except Fault Bool := do
  let limits := p.limits.positions
  let (nearStart, _) ← Threshold.closeToStart? play position limits.closeAbsolute
    limits.closePercent
  if !nearStart then .ok false
  else
    let (nearEnd, _) ← Threshold.closeToEnd? play (r.position.getD 0) limits.closeAbsolute
      limits.closePercent
    let (enough, _) ← Threshold.repeatPlayed? play p.listened limits.repeatAbsolute
      limits.repeatPercent
    .ok (nearEnd || enough)

/-- The play that begins again, if a listener moved back within the track and
that is what it means. -/
def repeated? (p : Player) (r : Range) (position : Option Float) (moved : Float) :
    Except Fault (Option Play) :=
  match position, p.current with
  | some x, some play =>
    if moved < 0 then do .ok (if ← p.isRepeat? play r x then some play else none)
    else .ok none
  | _, _ => .ok none

/-- **Goes on with the play tracked.** The open stretch is extended to now,
or one is opened. A listener who moved within the track begins a new
stretch, and one who began the track again a new play: then the finished one
is handed out. -/
def goOn (position : Option Float) (now : Instant) (p : Player) : Step Player (Option Play) :=
  match p.opened with
  | none => .ok none (p.openRange position now)
  | some r =>
    (Step.of (r.seek? position now) p).andThen fun moved p =>
      match moved with
      | none => (p.extend r position now).andThen fun _ p => .ok none p
      | some moved =>
        (Step.of (p.repeated? r position moved) p).andThen fun again p =>
          p.closeRange.andThen fun _ p =>
            match again with
            | none => .ok none (p.openRange position now)
            | some play =>
              let finished := p.played
              (p.begin play position now).andThen fun _ p => .ok finished p

/-! ## Reports -/

/-- **What an operation hands out**: the play tracked, as far as it was
heard, and the one that has just ended. -/
structure Update where
  /-- The play tracked. -/
  soFar : Option Play := none
  /-- The play that ended. -/
  finished : Option Play := none

/-- Replaces the play tracked by another one. Until now the old one was
heard. -/
def replace (old play : Play) (now : Instant) (p : Player) : Step Player Update :=
  (Step.of (play.describe?.bind fun _ => old.describe?) p).andThen fun _ p =>
    let held : Step Player Unit := match p.opened with
      | some r => p.extend r r.position now
      | none => .ok () p
    held.andThen fun _ p =>
      p.closeRange.andThen fun _ p =>
        let finished := p.played
        (p.begin play none now).andThen fun _ p => .ok ⟨p.played, finished⟩ p

/-- **Takes in the track that a player shows.** -/
def observe (play : Play) (status : Status) (now : Instant) (p : Player) : Step Player Update :=
  let p := { p with updated := some now, heard := now, status := status, isStale := false }
  match p.current with
  | none => (p.begin play none now).andThen fun _ p => .ok ⟨p.played, none⟩ p
  | some old =>
    (Step.of (Match.content? old play) p).andThen fun same p =>
      if !same then p.replace old play now
      else if status = .playing then
        (p.goOn play.position now).andThen fun finished p => .ok ⟨p.played, finished⟩ p
      else p.closeRange.andThen fun _ p => .ok ⟨p.played, none⟩ p

/-- **Takes in what a player reports**: a track, what it is doing, both, or
nothing. -/
def report (status : Option Status) (play : Option Play) (now : Instant) (p : Player) :
    Step Player Update :=
  let p := { p with heard := now }
  match play, status with
  | some play, _ => p.observe play (status.getD .playing) now
  | none, none => .ok {} p
  | none, some status =>
    if status = .stopped ∧ p.status ≠ .stopped ∧ p.current.isSome then
      (p.stop now).andThen fun _ p => .ok ⟨p.played, p.played⟩ p.clear
    else
      let p := { p with status := status }
      let quiet : Step Player Unit := if status = .playing then .ok () p else p.closeRange
      quiet.andThen fun _ p => .ok ⟨p.played, none⟩ p

/-- **Closes the open stretch of a player without news**, once, and tells
whether there is none. -/
def checkStale (now : Instant) (p : Player) : Step Player Bool :=
  let stale := p.isUpdateStale now
  if stale && !p.isStale then
    { p with isStale := true }.closeRange.andThen fun _ p => .ok stale p
  else .ok stale p

/-! ## Small facts -/

/-- A play is handed out exactly while one is tracked. -/
@[simp] theorem isSome_played (p : Player) : p.played.isSome = p.current.isSome := by
  cases h : p.current <;> simp [played, h]

/-- A stretch is never extended to a time before its end. -/
theorem stop_le_heldTime (r : Range) (now : Instant) :
    r.stop.time.micros ≤ (heldTime r now).micros := by
  unfold heldTime; split <;> omega

end Player

end Listening

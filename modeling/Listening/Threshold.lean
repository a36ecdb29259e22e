import Listening.Play

/-!
# Thresholds

When is a position close to the start or the end of a track, and when has a
track been listened to for long enough? Each question is answered by two
rules of which one has to hold: a number of seconds, and a percentage of the
track's length, which only counts if the length is known and not zero.
Besides the answer there is a hint that says why, and that mentions the
percentage only where the seconds did not decide.
-/

namespace Listening.Threshold

open Number (brief)

/-- Seconds from an end of the track within which a position is close. -/
def closeAbsolute : Float := 10

/-- Percent of the track within which a position is close. -/
def closePercent : Float := 15

/-- Seconds after which hearing a track again counts as a repeat. -/
def repeatAbsolute : Float := 30

/-- Percent of the track after which hearing it again counts as a repeat. -/
def repeatPercent : Float := 50

/-- Seconds of listening after which a play counts. -/
def listenedAbsolute : Float := 30

/-- Percent of the track after which a play counts. -/
def listenedPercent : Float := 50

/-- **The limits of the checks on positions.** -/
structure Positions where
  /-- Seconds within which a position is close. -/
  closeAbsolute : Float := Threshold.closeAbsolute
  /-- Percent within which a position is close. -/
  closePercent : Float := Threshold.closePercent
  /-- Seconds after which a repeat counts. -/
  repeatAbsolute : Float := Threshold.repeatAbsolute
  /-- Percent after which a repeat counts. -/
  repeatPercent : Float := Threshold.repeatPercent

/-- **The limits from which on a play counts**, as far as they are set. -/
structure Listened where
  /-- Seconds of listening. -/
  duration : Option Float := none
  /-- Percent of the track. -/
  percent : Option Float := none

/-- Whether something holds, in words. -/
def isOrNot (b : Bool) : String := if b then "is" else "is not"

/-- `elapsed` in percent of `duration`. -/
def percentOf (elapsed duration : Float) : Float := elapsed / duration * 100

/-- **Whether a position is close to the start of a play**, and why. -/
def closeToStart? (play : Play) (elapsed : Float) (absolute : Float := closeAbsolute)
    (percent : Float := closePercent) : Except Fault (Bool × String) := do
  let near := decide (elapsed ≤ absolute)
  let hint := isOrNot near ++ " within " ++ brief absolute ++ "s of track start"
  let front := "Position (" ++ brief elapsed ++ ") " ++ hint
  match ← play.duration.counted? with
  | none => .ok (near, front)
  | some duration =>
    let reached := percentOf elapsed duration
    let nearPercent := decide (reached ≤ percent)
    .ok (near || nearPercent,
      if near then front
      else front ++ " and " ++ isOrNot nearPercent ++ " within " ++ brief percent
        ++ "% of track start (" ++ brief reached ++ "%)")

/-- **Whether a position is close to the end of a play**, and why. Without a
length there is no telling. -/
def closeToEnd? (play : Play) (elapsed : Float) (absolute : Float := closeAbsolute)
    (percent : Float := closePercent) : Except Fault (Bool × String) := do
  match ← play.duration.counted? with
  | none =>
    .ok (false, "Cannot determine how close position " ++ brief elapsed
      ++ " is to end of track because no duration data is available")
  | some duration =>
    let near := decide (duration - elapsed ≤ absolute)
    let hint := isOrNot near ++ " within " ++ brief absolute ++ "s of track end"
    let front := "Position (" ++ brief elapsed ++ ") " ++ hint
    let reached := percentOf elapsed duration
    let nearPercent := decide (100 - percent ≤ reached)
    .ok (near || nearPercent,
      if near then front
      else front ++ " and " ++ isOrNot nearPercent ++ " within " ++ brief percent
        ++ "% of track end (" ++ brief (100 - reached) ++ "% remaining)")

/-- **Whether enough was played for hearing it again to be a repeat**, and
why. -/
def repeatPlayed? (play : Play) (elapsed : Float) (absolute : Float := repeatAbsolute)
    (percent : Float := repeatPercent) : Except Fault (Bool × String) := do
  let played := decide (absolute ≤ elapsed)
  let hint := isOrNot played ++ " more than " ++ brief absolute ++ "s"
  let front := "Duration listened (" ++ brief elapsed ++ "s) " ++ hint
  match ← play.duration.counted? with
  | none => .ok (played, front)
  | some duration =>
    let reached := percentOf elapsed duration
    let playedPercent := decide (percent ≤ reached)
    .ok (played || playedPercent,
      if played then front
      else front ++ " and " ++ isOrNot playedPercent ++ " more than " ++ brief percent
        ++ "% of track duration (" ++ brief reached ++ "%)")

/-- The outcome of the rule by seconds. -/
structure DurationCheck where
  /-- Whether it holds. -/
  passes : Bool
  /-- The limit. -/
  threshold : Float
  /-- The seconds listened. -/
  value : Float

/-- The outcome of the rule by percentage; there is none without a length. -/
structure PercentCheck where
  /-- The limit. -/
  threshold : Float
  /-- Whether it holds, and the percentage reached. -/
  outcome : Option (Bool × Float)

/-- **Whether a listen counts**, by both rules. -/
structure Verdict where
  /-- Whether one of them holds. -/
  passes : Bool
  /-- The rule by seconds. -/
  duration : DurationCheck
  /-- The rule by percentage. -/
  percent : PercentCheck

/-- **Checks a time listened against the limits.** -/
def check? (limits : Listened) (elapsed : Float) (duration : Amount) : Except Fault Verdict := do
  let atLeast := limits.duration.getD listenedAbsolute
  let percent := limits.percent.getD listenedPercent
  let outcome := (← duration.counted?).map fun length =>
    let reached := percentOf elapsed length
    (decide (percent ≤ reached), reached)
  let long := decide (atLeast ≤ elapsed)
  .ok ⟨long || (outcome.map (·.1)).getD false, ⟨long, atLeast, elapsed⟩, ⟨percent, outcome⟩⟩

/-- A verdict in words. -/
def Verdict.summary (v : Verdict) : String :=
  let passing (b : Bool) := if b then "passes" else "does not pass"
  let value := if v.duration.value == 0 then 0 else v.duration.value
  let front := "tracked time of " ++ brief value ++ "s (" ++ passing v.duration.passes ++ " "
    ++ brief v.duration.threshold ++ "s threshold)"
  match v.percent.outcome with
  | none => front
  | some (passes, reached) =>
    front ++ " and tracked percent of " ++ brief reached ++ "% (" ++ passing passes ++ " "
      ++ brief v.percent.threshold ++ "% threshold)"

end Listening.Threshold

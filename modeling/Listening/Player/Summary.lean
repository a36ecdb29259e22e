import Listening.Player

/-!
# Players in words

A player in a few lines: the play tracked, what the player reported and
when, and how much of the track was heard. Seconds are shown whole.
-/

namespace Listening.Player

open Number (fixed)

/-- Yes or no. -/
def yesNo (b : Bool) : String := if b then "Yes" else "No"

/-- The play tracked and since when, if there is one. -/
def playLine? (p : Player) : Except Fault (List String) :=
  match p.current, p.firstSeen with
  | some play, some t => do .ok [(← play.describe?) ++ " @ " ++ t.toIso]
  | _, _ => .ok []

/-- What was reported. -/
def statusLine (p : Player) (now : Instant) : String :=
  "Reported: " ++ Text.uppercase p.status.word
    ++ " | Stale: " ++ yesNo (p.isUpdateStale now)
    ++ " | Orphaned: " ++ yesNo (p.isOrphaned now)
    ++ " | Last Update: " ++ p.heard.toIso

/-- How much was heard: of a track with a length also in percent, and where
in the track the player is. -/
def listenedLine? (p : Player) : Except Fault String := do
  let line := "Listened For: " ++ fixed 0 p.listened ++ "s"
  let length := match p.current with
    | some play => play.duration
    | none => .absent
  match ← length.counted? with
  | none => .ok line
  | some length =>
    let line := line ++ " (" ++ fixed 0 (p.listened / length * 100) ++ "%)"
    .ok (match p.position with
      | some x => fixed 0 x ++ "/" ++ fixed 0 length ++ "s | " ++ line
      | none => line)

/-- **A player in a few lines.** -/
def summary? (p : Player) (now : Instant) : Except Fault String := do
  let play ← p.playLine?
  let listened ← p.listenedLine?
  .ok (String.intercalate "\n"
    (["Player " ++ p.platform.name] ++ play ++ [p.statusLine now, listened]))

end Listening.Player

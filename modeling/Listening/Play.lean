import Listening.Instant.Iso
import Listening.Label
import Listening.Range

/-!
# Plays

A `Play` is one listen of one track: what was played, when and for how long,
and where it was seen. A `Report` is what one player shows at one moment,
and a `Snapshot` is all that one look at a source brings: reports of
players, or the list of what was played lately, or both.

A snapshot is valid if every play in it has a title and no play is shorter
than nothing. `Play.validate?` says what is wrong.
-/

namespace Listening

/-- **One listen of one track.** -/
structure Play where
  /-- The title. -/
  title : Label
  /-- The artists, as they are listed. -/
  artists : List Label := []
  /-- The album. -/
  album : Label := .absent
  /-- The length of the track. -/
  duration : Amount := .absent
  /-- When it was played. -/
  playedAt : Option Instant := none
  /-- How long it was listened to. -/
  listenedFor : Amount := .absent
  /-- The stretches in which it was listened to. -/
  ranges : Option (List Range) := none
  /-- The source that reported it. -/
  source : Label := .absent
  /-- What the source calls the track. -/
  trackId : Label := .absent
  /-- Further names of the track. -/
  names : List (String × Json) := []
  /-- How far into the track the player was when it was seen. -/
  position : Option Float := none
  /-- The device it was played on. -/
  device : Label := .absent
  /-- The user who played it. -/
  user : Label := .absent
  /-- Whether it came up at the source only now. -/
  isNew : Bool := false
  /-- Whether it was filled in afterwards. -/
  isFilledIn : Bool := false

/-- **Where a play was seen**: a device and a user. -/
structure Platform where
  /-- The device. -/
  device : String
  /-- The user. -/
  user : String
  deriving DecidableEq, Repr

/-- What stands for a missing user. -/
def Platform.noUser : String := "NO_USER"

/-- What stands for a missing device. -/
def Platform.noDevice : String := "NO_DEVICE"

/-- The name under which players and windows are kept. -/
def Platform.name (p : Platform) : String := p.device ++ "-" ++ p.user

/-- **What a player says it is doing.** -/
inductive Status where
  /-- It plays. -/
  | playing
  /-- It is paused. -/
  | paused
  /-- It has stopped. -/
  | stopped
  /-- It does not tell. -/
  | unknown
  deriving DecidableEq, Repr

/-- The word for a status. -/
def Status.word : Status → String
  | .playing => "playing"
  | .paused => "paused"
  | .stopped => "stopped"
  | .unknown => "unknown"

/-- The status a word names. -/
def Status.ofWord? (word : String) : Except Fault Status :=
  match [Status.playing, .paused, .stopped, .unknown].find? (·.word == word) with
  | some s => .ok s
  | none => .error (.noStatus word)

/-- **What one player shows at one moment.** -/
structure Report where
  /-- Where. -/
  platform : Platform
  /-- What the player says it is doing, if it does. -/
  status : Option Status := none
  /-- The track it shows. -/
  play : Option Play := none
  /-- How far into the track it is. -/
  position : Option Float := none

/-- **All that one look at a source brings.** -/
structure Snapshot where
  /-- What the players show. -/
  players : List Report := []
  /-- What was played lately, newest first. -/
  history : Option (List Play) := none

namespace Play

/-! ## Describing -/

/-- The artists as one credit. -/
def credit? (p : Play) : Except Fault String :=
  (p.artists.mapM Label.text?).map (String.intercalate ", ")

/-- **A play in one line**: what the source calls it, artists, title and
album. -/
def describe? (p : Play) : Except Fault String := do
  let credit ← p.credit?
  let artists := if credit.isEmpty then "(no artists)" else credit
  let line := artists ++ " - " ++ p.title.display
  let line := if p.trackId.isGiven then "(" ++ p.trackId.display ++ ") " ++ line else line
  .ok (if p.album.isGiven then line ++ " [" ++ p.album.display ++ "]" else line)

/-- A play in words, with the time at which it was played. -/
def describeDated? (p : Play) : Except Fault String := do
  let line ← p.describe?
  .ok (match p.playedAt with
    | some t => line ++ " @ " ++ t.toIso
    | none => line)

/-- Where a play was seen. -/
def platform (p : Play) : Platform where
  device := if p.device.isGiven then p.device.display else Platform.noDevice
  user := if p.user.isGiven then p.user.display else Platform.noUser

/-! ## Validity -/

/-- Whether a title is there and not blank. -/
def isTitled (p : Play) : Bool :=
  match p.title with
  | .text s => !Text.isBlankText s
  | _ => false

/-- **Accepts a play that has a title and is not shorter than nothing.** -/
def validate? (p : Play) : Except Fault Unit :=
  if !p.isTitled then .error .untitled
  else do
    match ← p.duration.number? with
    | none => .ok ()
    | some x =>
      if x < 0 then .error (.negativeDuration p.title.display p.duration.toJson.display)
      else .ok ()

end Play

/-- **Accepts a snapshot all of whose plays are valid.** -/
def Snapshot.validate? (s : Snapshot) : Except Fault Unit := do
  for report in s.players do
    match report.play with
    | some p => p.validate?
    | none => .ok ()
  for p in s.history.getD [] do
    p.validate?

/-- The plays of a snapshot, those of players first. -/
def Snapshot.plays (s : Snapshot) : List Play :=
  s.players.filterMap (·.play) ++ s.history.getD []

end Listening

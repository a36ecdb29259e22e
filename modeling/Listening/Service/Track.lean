import Listening.Play

/-!
# Tracks of the listening service

The listening service lists what a user has played lately as tracks: a
title, one artist, an album and a timestamp in seconds. `Track.play?` is the
play such a track stands for. Nothing is said about how long the track is or
how long it was listened to.
-/

namespace Listening.Service

/-- **One entry of a user's list.** -/
structure Track where
  /-- The title. -/
  title : Json
  /-- The name of the artist. -/
  artist : Json := .null
  /-- The album. -/
  album : Json := .null
  /-- When it was played, in seconds since the epoch. -/
  timestamp : Json := .null

namespace Track

/-- When a track was played, if the service tells. -/
def playedAt? (t : Track) : Except Fault (Option Instant) :=
  if t.timestamp.truthy then do
    match ← (Amount.ofJson t.timestamp).whole? with
    | some n => .ok (some (← Instant.ofUnixSeconds? n))
    | none => .ok none
  else .ok none

/-- **The play a track stands for**, as seen by a source in the list of a
user. -/
def play? (t : Track) (source : String) (user : Option String) : Except Fault Play := do
  .ok
    { title := .text t.title.display
      artists := if t.artist.truthy then [.text t.artist.display] else []
      album := if t.album.truthy then .ofJson t.album else .absent
      playedAt := ← t.playedAt?
      source := .text source
      user := .ofText? user }

end Track

end Listening.Service

import Listening.Play

/-!
# Submissions to the listening service

A play is submitted with one artist credit, its title and album, the second
in which it was played, and the whole seconds of its length if that is known
and not zero.
-/

namespace Listening.Service

/-- **What is submitted of a play.** -/
structure Submission where
  /-- The artists, as one credit. -/
  artist : String
  /-- The title. -/
  title : Label
  /-- When it was played, in seconds since the epoch. -/
  timestamp : Int
  /-- The album. -/
  album : Label
  /-- The length of the track in seconds. -/
  duration : Option Int

namespace Submission

/-- **What is submitted of a play** at a moment. A play without a time was
played just now. -/
def ofPlay? (p : Play) (now : Instant) : Except Fault Submission := do
  let artist ← p.credit?
  let timestamp ← (p.playedAt.getD now).unixSeconds?
  let duration ← if p.duration.counts then p.duration.whole? else .ok none
  .ok ⟨artist, p.title, timestamp, p.album, duration⟩

end Submission

end Listening.Service

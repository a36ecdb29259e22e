import Listening.Poller
import Listening.Service.Account

/-!
# Watching a list of the listening service

The list of an account is a source: every look at it brings the plays on it,
newest first. If the service fails, the source could not be read; a track
that makes no sense is a fault of its own.
-/

namespace Listening.Service

/-- How many plays are looked at, unless told otherwise. -/
def Listing.defaultLimit : Int := 20

/-- **A list that is watched.** -/
structure Listing where
  /-- Whose list it is. -/
  account : Account := {}
  /-- How many plays of it are looked at. -/
  limit : Int := Listing.defaultLimit

namespace Listing

/-- What a fault of the request means to one who watches. -/
def asUnreadable (e : Fault) : Fault :=
  if e.nature.isService || e.nature.isSystem then
    .unreadable ("Could not fetch recent tracks from Last.fm: " ++ e.text)
  else e

/-- **Looks at the list.** -/
def fetch {ω : Type} [Service ω] (l : Listing) (w : ω) : Step ω Snapshot :=
  let asked := Service.recent l.account.listed l.limit w
  (Step.of (asked.result.mapError asUnreadable) asked.state).andThen fun tracks w =>
    (Step.of (l.account.plays? tracks) w).andThen fun plays w => .ok { history := some plays } w

end Listing

end Listening.Service

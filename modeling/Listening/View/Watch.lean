import Listening.View
import Listening.Watch

/-!
# Views of watches

How the sources are watched, as JSON: the pace, what is counted as a listen,
and where the list of the service is kept.
-/

namespace Listening.Watch

open View

variable {σ ω : Type}

/-- What the views of all watches tell. -/
def common (w : Watch σ ω) : List (String × Json) :=
  [("name", .str w.poller.name), ("interval", .float w.poller.pace.interval),
    ("max_retries", .int w.poller.pace.retries),
    ("retry_multiplier", .float w.poller.pace.factor), ("window", .int Ledger.defaultSize),
    ("after_poll", .bool w.poller.afterPoll.isSome)]

/-- The view of the watch over the speakers. -/
def speakersView (w : Watch Speaker.Finder ω) : List (String × Json) :=
  let players := w.reconciler.players
  let positions := players.limits.positions
  w.common ++
    [("rediscovery", .float w.source.interval),
      ("scrobble", .obj
        [("duration", maybe .float players.listened.duration),
          ("percent", maybe .float players.listened.percent)]),
      ("position", .obj
        [("close_absolute", .float positions.closeAbsolute),
          ("close_percent", .float positions.closePercent),
          ("repeat_absolute", .float positions.repeatAbsolute),
          ("repeat_percent", .float positions.repeatPercent)]),
      ("stale", .float players.limits.stale), ("orphaned", .float players.limits.orphaned),
      ("drift", .float players.limits.drift)]

/-- The view of the watch over a list. -/
def listView (w : Watch Service.Listing ω) : List (String × Json) :=
  let follower := w.reconciler.follower
  w.common ++
    [("username", maybe .str w.source.account.user), ("limit", .int w.source.limit),
      ("history", maybe (fun f => .str f.name) follower),
      ("cache", maybe (fun f => .str f.path.toText) (follower.bind Follower.file))]

end Listening.Watch

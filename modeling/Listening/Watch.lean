import Listening.Service.Client
import Listening.Service.Listing
import Listening.Settings

/-!
# Watches

A `Watch` is all that watches one source: a poller, and the state from which
it starts. What it discovers goes to a dispatcher. There is one for the
speakers, which shows what they play after every poll, and one for a list of
the listening service, which is kept in a state file.
-/

namespace Listening

/-- **All that watches one source.** -/
structure Watch (σ ω : Type) where
  /-- The poller. -/
  poller : Poller σ (Dispatcher ω)
  /-- The source at the start. -/
  source : σ
  /-- The reconciler at the start. -/
  reconciler : Reconciler := {}

namespace Watch

variable {σ ω : Type} [Host ω]

/-- The state from which a watch starts. -/
def start (w : Watch σ ω) (d : Dispatcher ω) : Poller.State σ (Dispatcher ω) where
  source := w.source
  reconciler := w.reconciler
  host := d

/-- **Watches**, for so many polls at most. Whatever ends the watch, what it
has done stays done. -/
def run (w : Watch σ ω) (fuel : Nat) (d : Dispatcher ω) : Dispatcher ω :=
  (w.poller.run fuel (w.start d)).state.host

/-- A source that is looked at on the host of the dispatcher. -/
def onHost (fetch : σ → ω → Step (σ × ω) Snapshot) (source : σ) (d : Dispatcher ω) :
    Step (σ × Dispatcher ω) Snapshot :=
  (fetch source d.host).within fun (source, host) => (source, d.on host)

/-- Hands plays to the clients. -/
def deliver (clients : List (Client ω)) (plays : List Play) (d : Dispatcher ω) :
    Step (Dispatcher ω) Unit :=
  (Dispatcher.dispatch clients plays d).andThen fun _ d => .ok () d

/-! ## The speakers -/

/-- Shows what the players of a source do, if there are any. -/
def showPlayers (finder : Speaker.Finder) (r : Reconciler) (d : Dispatcher ω) :
    Step (Dispatcher ω) Unit :=
  (Step.of (r.players.rows? finder.names) d).andThen fun rows d =>
    if rows.isEmpty then .ok () d
    else
      (Step.of (Console.playersTable? (rows.map (·.2))) d).andThen Host.say

/-- **The watch over the speakers.** -/
def speakers [Speakers ω] (s : Settings) (clients : List (Client ω)) :
    Watch Speaker.Finder ω :=
  let finder : Speaker.Finder := { interval := s.discovery }
  { poller :=
      { name := finder.name
        fetch := onHost Speaker.Finder.fetch
        deliver := deliver clients
        afterPoll := some showPlayers
        pace := s.pace }
    source := finder
    reconciler := { players := { listened := s.listened, limits := s.limits } } }

/-! ## A list -/

/-- The name of the state file. -/
def fileName : String := "state.json"

/-- Where the state file is. -/
def filePath (s : Settings) : Path := s.directory.child fileName

/-- **The watch over a list** of the service, which goes on from what a state
file holds. -/
def list? [Service ω] (s : Settings) (clients : List (Client ω)) (content : Option ByteArray)
    (now : Instant) : Except Fault (Watch Service.Listing ω) := do
  let listing : Service.Listing := { account := { user := s.watched } }
  let file ← StateFile.open? (filePath s) content
  let follower ← Follower.start? {} listing.account.name (some file) now
  .ok
    { poller :=
        { name := listing.account.name
          fetch := onHost fun l w => (Service.Listing.fetch l w).within fun w => (l, w)
          deliver := deliver clients
          pace := s.pace }
      source := listing
      reconciler := { follower := some follower } }

end Watch

end Listening

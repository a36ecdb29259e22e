import Listening.History.Follower
import Listening.Players

/-!
# Reconciling a snapshot

A snapshot may bring reports of players, a list of what was played lately,
or both. The `Reconciler` of a source hands each part on and collects the
candidates, those of the players first.
-/

namespace Listening

/-- **What turns snapshots into candidates.** -/
structure Reconciler where
  /-- The players. -/
  players : Players := {}
  /-- The list of what was played lately; it is followed from the first one
  on. -/
  follower : Option Follower := none

namespace Reconciler

/-- Looks at a list, if there is one. -/
def followed (history : Option (List Play)) (now : Instant) (r : Reconciler) :
    Step Reconciler (List Play) :=
  match history with
  | none => .ok [] r
  | some plays =>
    ((r.follower.getD {}).process plays now).within fun f => { r with follower := some f }

/-- **The candidates of a snapshot.** -/
def process (s : Snapshot) (now : Instant) (r : Reconciler) : Step Reconciler (List Play) :=
  ((r.players.process s.players now).within fun ps => { r with players := ps }).andThen
    fun shown r =>
      (r.followed s.history now).andThen fun listed r => .ok (shown ++ listed) r

/-- Writes what is kept by a way to write to a path. -/
def save {ω : Type} (write : Path → String → ω → ω) (r : Reconciler) (outside : ω) :
    Reconciler × ω :=
  match r.follower with
  | none => (r, outside)
  | some follower =>
    let (follower, outside) := follower.save write outside
    ({ r with follower := some follower }, outside)

end Reconciler

end Listening

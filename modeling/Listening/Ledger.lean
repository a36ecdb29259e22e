import Listening.Step
import Listening.Window

/-!
# Ledgers

A source reports a listen more than once. The `Ledger` of a source knows the
plays discovered lately, in one window for each platform, and lets only
those through that are one listen with none of them.
-/

namespace Listening

/-- The size of a ledger's windows. -/
def Ledger.defaultSize : Int := 30

/-- **The plays discovered lately**, by platform, in the order in which the
platforms were first seen. -/
structure Ledger where
  /-- The size of the windows. -/
  size : Int := Ledger.defaultSize
  /-- The windows. -/
  windows : List (String × Window Play) := []

namespace Ledger

/-- The plays known of a platform. -/
def known (l : Ledger) (platform : String) : List Play :=
  match l.windows.lookup platform with
  | some w => w.items
  | none => []

/-- The plays known of all platforms, in the order in which they were
played. -/
def discovered? (l : Ledger) : Except Fault (List Play) :=
  Play.sort? (l.windows.flatMap fun p => p.2.items)

/-- The play known that is one listen with another. -/
def existing? (l : Ledger) (play : Play) : Except Fault (Option Play) :=
  Match.lastSame? play (l.known play.platform.name)

/-- Adds a play to the window of its platform. -/
def record (play : Play) (l : Ledger) : Step Ledger Unit :=
  let platform := play.platform.name
  let window : Except Fault (Window Play) := match l.windows.lookup platform with
    | some w => .ok w
    | none => Window.ofSize? l.size
  match window with
  | .ok w => .ok () { l with windows := Entries.put platform (w.push play) l.windows }
  | .error e => .fail e l

/-- Discovers one play: the play, if it is new. -/
def discoverOne (play : Play) (l : Ledger) : Step Ledger (Option Play) :=
  (Step.of (l.existing? play) l).andThen fun existing l =>
    match existing with
    | some _ => (Step.of play.describeDated? l).andThen fun _ l => .ok none l
    | none => (l.record play).andThen fun _ l => .ok (some play) l

/-- **Discovers plays**, in the order in which they were played, and delivers
the new ones. -/
def discover (plays : List Play) (l : Ledger) : Step Ledger (List Play) :=
  (Step.of (Play.sort? plays) l).andThen fun plays l =>
    (Step.forEach discoverOne plays l).andThen fun found l => .ok (found.filterMap id) l

end Ledger

end Listening

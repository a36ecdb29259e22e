import Listening.Poller
import Listening.Recording.Reader

/-!
# Scripted sources

A `Script` plays back looks at a source of any kind. Each one may let time
pass first, may bring the sign to stop, and ends with a snapshot or a fault.
After the last look all is to stop.
-/

namespace Listening

/-- **A look at a source, as it was recorded.** -/
structure Script.Look where
  /-- How many seconds pass first. -/
  ahead : Float := 0
  /-- Whether it brings the sign to stop. -/
  stops : Bool := false
  /-- What it ends with. -/
  outcome : Except Fault Snapshot := .ok {}

/-- **The looks at a source** still to come, and how many there were. -/
structure Script where
  /-- The looks to come. -/
  looks : List Script.Look
  /-- How many there were. -/
  calls : Nat := 0

namespace Script

/-- **Plays back the next look.** -/
def fetch (s : Script) (w : Outside) : Step (Script × Outside) Snapshot :=
  match s.looks with
  | [] => .ok {} (⟨[], s.calls + 1⟩, { w with stopping := true })
  | look :: rest =>
    ((w.moveClock look.ahead).andThen fun _ w =>
      Step.of look.outcome { w with stopping := w.stopping || look.stops }).within fun w =>
        (⟨rest, s.calls + 1⟩, w)

/-- A poller that plays back a script. What it discovers is kept. -/
def poller (name : String) (pace : Pace := {}) : Poller Script Outside where
  name := name
  fetch := fetch
  deliver plays w := .ok () { w with delivered := w.delivered ++ [plays] }
  afterPoll := some fun _ _ w => .ok () { w with rounds := w.rounds + 1 }
  pace := pace

/-- A look, as it is written in a recording. -/
def lookOf (fault? : Json → Option Fault) (v : Json) : Look where
  ahead := (Recording.number? (Recording.part "advance" v)).getD 0
  stops := Recording.isTrue (Recording.part "stop" v)
  outcome := match fault? (Recording.part "error" v) with
    | some e => .error e
    | none => Recording.snapshot? v

end Script

end Listening

import Listening.Recording.Reader

/-!
# Recorded failures

In a recording a failure is an object: its nature, by name, what is said, and
the code of the service. A nature without a name here is none that anything
handles. Beside the answers of the outside a recording holds the time on the
clock at the beginning and the number of waits before all is to stop.
-/

namespace Listening.Recording

/-- The names of natures. -/
def natures : List (String × Nature) :=
  [("system", .system), ("request", .request), ("value", .value), ("kind", .kind),
    ("key", .key), ("speaker", .speaker), ("service", .service), ("answer", .answer),
    ("unreachable", .unreachable)]

/-- **The failure that a JSON value writes**, if it is an object. -/
def failure? : Json → Option Fault
  | v@(.obj _) =>
    let name := (text? (part "nature" v)).getD ""
    some (.outside
      { nature := (natures.lookup name).getD .other
        name := name
        message := (text? (part "message" v)).getD ""
        status := part "status" v })
  | _ => none

/-- The number of waits after which all is to stop. -/
def waits (v : Json) : Nat :=
  match part "polls" v with
  | .int n => n.toNat
  | _ => 1

/-- What the clock shows at the beginning. -/
def clock (v : Json) : Instant :=
  ((text? (part "clock" v)).bind Instant.ofIso?).getD Instant.epoch

/-- **The outside that a JSON value writes.** -/
def outside (v : Json) : Outside where
  recording := ofJson failure? v
  clock := clock v
  last := some (waits v)

end Listening.Recording

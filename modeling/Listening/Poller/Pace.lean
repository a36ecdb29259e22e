import Listening.Fault

/-!
# The pace of polling

How long to wait after a poll, and when to give up. A poll that could not
read its source counts as a failure; after the failure number `f` in a row
the wait is the interval times the factor to the power `f`, and one failure
more than the allowed retries ends it all. A poll that met a bad value
neither counts nor clears the count, and a poll that went well clears it.
Whatever else goes wrong is not for the poller to handle.
-/

namespace Listening

/-- **How often a source is polled**, and how patiently. -/
structure Pace where
  /-- Seconds between two polls. -/
  interval : Float := 10.0
  /-- How many failures in a row are allowed. -/
  retries : Int := 5
  /-- What the wait grows by with each failure in a row. -/
  factor : Float := 1.5

namespace Pace

/-- **What follows from a poll.** -/
inductive Verdict where
  /-- It went well. -/
  | cleared
  /-- The source could not be read, for the given time in a row. -/
  | failed (failures : Nat)
  /-- A value was bad. -/
  | skipped
  /-- The source could not be read for the given time in a row, which is
  once too often. -/
  | exhausted (failures : Nat) (reason : Fault)
  /-- Something else went wrong. -/
  | broken (reason : Fault)

/-- Whether a fault means that the source could not be read. -/
def isReadFailure (e : Fault) : Bool := e.nature.isSystem || e.nature == .source

/-- **What follows from a poll** after so many failures in a row. -/
def judge {α : Type} (pace : Pace) (failures : Nat) (result : Except Fault α) : Verdict :=
  match result with
  | .ok _ => .cleared
  | .error e =>
    if isReadFailure e then
      if pace.retries < (failures + 1 : Nat) then .exhausted (failures + 1) e
      else .failed (failures + 1)
    else if e.nature.isValue then .skipped
    else .broken e

/-- **The wait after so many failures in a row.** A factor that grows out of
all bounds is a fault. -/
def backoff? (pace : Pace) (failures : Nat) : Except Fault Float :=
  let growth := pace.factor.pow (Number.ofInt failures)
  if growth.isInf && pace.factor.isFinite then .error .tooLarge
  else .ok (pace.interval * growth)

/-- A poll that could not read its source ends it all exactly when the
failures in a row exceed the retries. -/
theorem judge_readFailure {α : Type} (pace : Pace) (failures : Nat) {e : Fault}
    (h : isReadFailure e = true) :
    pace.judge failures (.error e : Except Fault α)
      = if pace.retries < (failures + 1 : Nat) then .exhausted (failures + 1) e
        else .failed (failures + 1) := by
  simp [judge, h]

end Pace

end Listening

import Listening.Fault
import Listening.Instant.Calendar

/-!
# Instants

An `Instant` is a point in time to the microsecond, together with the
offset at which its clock stands – or with none, when a source writes a time
and does not say where. Two instants with an offset compare as points in
time, whatever their offsets; so do two without. One with an offset and one
without cannot be compared at all: `Instant.minus?` and `Instant.before?`
refuse that, and `Instant.minus` is what they agree with otherwise.

Spans of time are whole microseconds. As seconds they become floating-point
numbers, by one correct rounding.
-/

namespace Listening

/-- **A point in time**, in microseconds from 1970-01-01T00:00:00 – in
universal time for an instant with an offset, by its own clock for one
without. -/
structure Instant where
  /-- The microseconds since the epoch. -/
  micros : Int
  /-- How far ahead of universal time the clock stands, in microseconds. -/
  offset : Option Int
  deriving DecidableEq, Repr

namespace Instant

/-- The microseconds of a second. -/
def second : Int := 1000000

/-- The microseconds of a day. -/
def day : Int := 86400 * second

/-- The epoch, in universal time. -/
def epoch : Instant := ⟨0, some 0⟩

/-- What the clock shows, in microseconds from 1970-01-01T00:00:00. -/
def shown (t : Instant) : Int := t.micros + t.offset.getD 0

/-! ## Comparing -/

/-- Whether two instants can be compared: both have an offset, or none. -/
def comparable (a b : Instant) : Bool := a.offset.isSome == b.offset.isSome

/-- The microseconds from `b` to `a`. -/
def minus (a b : Instant) : Int := a.micros - b.micros

/-- The microseconds from `b` to `a`, for instants that can be compared. -/
def minus? (a b : Instant) : Except Fault Int :=
  if comparable a b then .ok (a.minus b) else .error .mixedTimes

/-- Whether `a` is before `b`, for instants that can be compared. -/
def before? (a b : Instant) : Except Fault Bool :=
  if comparable a b then .ok (a.micros < b.micros) else .error .mixedTimes

/-- Whether two instants are the same point in time. An instant with an
offset is never the same as one without. -/
def same (a b : Instant) : Bool := comparable a b && a.micros == b.micros

/-- Instants of one kind have a distance. -/
theorem minus?_of_comparable {a b : Instant} (h : comparable a b = true) :
    a.minus? b = .ok (a.micros - b.micros) := by
  simp [minus?, h, minus]

/-- Instants of one kind have an order. -/
theorem before?_of_comparable {a b : Instant} (h : comparable a b = true) :
    a.before? b = .ok (decide (a.micros < b.micros)) := by
  simp [before?, h]

/-! ## Spans -/

/-- A span in seconds. -/
def seconds (micros : Int) : Float := Number.ofDecimal micros 6

/-- The longest span, in days. -/
def longestSpan : Int := 999999999

/-- **The span of a number of seconds**, to the nearest microsecond, a tie to
the even one. The whole seconds are taken exactly, and the rest is scaled
before it is rounded. -/
def span? (x : Float) : Except Fault Int :=
  match Number.read x with
  | .undefined => .error .undefinedNumber
  | .infinite _ => .error .endlessNumber
  | r@(.finite negative _ _) =>
    let whole := r.truncate?.getD 0
    let rest := x - Number.ofInt whole
    let micros : Int := match Number.read (rest * 1000000) with
      | .finite _ mantissa exponent =>
        let (num, den) := Number.fraction mantissa exponent
        -- the tie goes to the even sum, so an odd number of whole microseconds would turn it;
        -- whole seconds are an even number of them
        Number.roundDiv num den
      | _ => 0
    let total := whole * second + (if negative then -micros else micros)
    if (total / day).natAbs ≤ longestSpan.natAbs then .ok total else .error .outOfTime

/-- The first microsecond of year 1. -/
def earliest : Int := Calendar.Date.toDays ⟨1, 1, 1⟩ * day

/-- The first microsecond after year 9999. -/
def latest : Int := Calendar.Date.toDays ⟨10000, 1, 1⟩ * day

/-- **An instant moved by a span.** The clock must go on showing a year from
1 to 9999. -/
def shift? (t : Instant) (micros : Int) : Except Fault Instant :=
  let moved := { t with micros := t.micros + micros }
  if earliest ≤ moved.shown ∧ moved.shown < latest then .ok moved else .error .outOfTime

/-! ## Timestamps -/

/-- The whole part of a number of microseconds in seconds – that is, of the
floating-point number of seconds, which has 53 binary digits. -/
def wholeSeconds (micros : Nat) : Nat :=
  let digits := (micros / second.toNat).log2
  -- there is room for a part of a second in all of the calendar
  let scale := Number.twoTo (52 - digits)
  Number.roundDiv (micros * scale) second.toNat / scale

/-- **The whole number of seconds since the epoch**, towards zero. A time
without an offset is taken for universal time; as its clock may have been
turned back in the day before, that day has to be in the calendar too. -/
def unixSeconds? (t : Instant) : Except Fault Int :=
  if t.offset.isNone ∧ t.micros < earliest + day then .error .yearOutOfRange
  else .ok (t.micros.sign * wholeSeconds t.micros.natAbs)

/-- **The instant of a timestamp**, in universal time. -/
def ofUnixSeconds? (n : Int) : Except Fault Instant :=
  let wordBound : Int := Number.twoTo 63
  let yearBound : Int := Number.twoTo 31
  if n < -wordBound ∨ wordBound ≤ n then .error .outOfTime
  else
    let t : Instant := ⟨n * second, some 0⟩
    if earliest ≤ t.micros ∧ t.micros < latest then .ok t
    else
      let year := (Calendar.Date.ofDays (n / 86400)).year
      if year - 1900 < -yearBound ∨ yearBound ≤ year - 1900 then .error .unheardTimestamp
      else .error .yearOutOfRange

end Instant

end Listening

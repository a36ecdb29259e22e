import Listening.Instant
import Listening.Number.Numeral

/-!
# Instants as ISO 8601 text

An instant is written as date, `T`, time – with six decimals of the second
if it has any – and its offset, if it has one. More is read than is written:
the basic forms without separators, dates by week, any one character between
date and time, decimals after any part of the time, and `Z` for universal
time.

The time of day is read leniently at its end: when it is followed by an
offset, one character after a whole part of it does not matter.
-/

namespace Listening.Instant

open Listening.Number (padLeft)

/-! ## Writing -/

/-- A time of day or an offset as text, from microseconds: hours and minutes,
seconds if `always` or if there are any, decimals if there are any. -/
def clockText (always : Bool) (micros : Nat) : String :=
  let rest := micros % 1000000
  let total := micros / 1000000
  let part (n : Nat) := padLeft 2 (Nat.repr n)
  part (total / 3600) ++ ":" ++ part (total / 60 % 60)
    ++ (if always ∨ total % 60 ≠ 0 ∨ rest ≠ 0 then ":" ++ part (total % 60) else "")
    ++ (if rest ≠ 0 then "." ++ padLeft 6 (Nat.repr rest) else "")

/-- A date as text. -/
def dateText (d : Calendar.Date) : String :=
  padLeft 4 (toString d.year) ++ "-" ++ padLeft 2 (Nat.repr d.month) ++ "-"
    ++ padLeft 2 (Nat.repr d.day)

/-- An offset as text. -/
def offsetText : Option Int → String
  | none => ""
  | some o => (if o < 0 then "-" else "+") ++ clockText false o.natAbs

/-- **An instant as text.** -/
def toIso (t : Instant) : String :=
  dateText (Calendar.Date.ofDays (t.shown / day)) ++ "T" ++ clockText true (t.shown % day).toNat
    ++ offsetText t.offset

/-- An instant in universal time as a reader sees it: date, time to the
second, and the name of the clock. -/
def toUniversal (t : Instant) : String :=
  let d := Calendar.Date.ofDays (t.micros / day)
  toString d.year ++ "-" ++ padLeft 2 (Nat.repr d.month) ++ "-" ++ padLeft 2 (Nat.repr d.day)
    ++ " " ++ clockText true ((t.micros % day) / second * second).toNat ++ " UTC"

/-! ## Reading -/

/-- The number that `count` digits in front write, and the rest. -/
def takeDigits (count : Nat) (cs : List Char) : Option (Nat × List Char) :=
  let digits := cs.take count
  if digits.length = count ∧ digits.all Char.isDigit then
    some (Number.digitsValue digits, cs.drop count)
  else none

/-- Where the date ends: the count of characters before the one that
separates it from the time. -/
def dateLength (cs : List Char) : Nat :=
  if cs.length = 7 then 7
  else if cs[4]? = some '-' then
    if cs[5]? = some 'W' then
      if cs[8]? = some '-' then
        match cs[10]? with
        | some c => if c.isDigit then 8 else 10
        | none => 10
      else 8
    else 10
  else if cs[4]? = some 'W' then
    let digits := ((cs.drop 7).takeWhile Char.isDigit).length
    if digits < 2 then 7 + digits
    else if digits % 2 = 0 then 8 else 7
  else 8

/-- The hyphen of an extended form. -/
def takeHyphen (extended : Bool) (cs : List Char) : Option (List Char) :=
  if extended then
    match cs with
    | '-' :: rest => some rest
    | _ => none
  else some cs

/-- A date by week and day; the day may be missing. -/
def weekDate? (extended : Bool) (year : Nat) (cs : List Char) : Option Int := do
  let (week, rest) ← takeDigits 2 cs
  let day ← if rest.isEmpty then some 1 else do
    let rest ← takeHyphen extended rest
    let (day, _) ← takeDigits 1 rest
    some day
  Calendar.ofWeek? year week day

/-- A date by month and day. -/
def monthDate? (extended : Bool) (year : Nat) (cs : List Char) : Option Int := do
  let (month, rest) ← takeDigits 2 cs
  let rest ← takeHyphen extended rest
  let (day, _) ← takeDigits 2 rest
  let date : Calendar.Date := ⟨year, month, day⟩
  if date.isValid then some date.toDays else none

/-- The days from 1970-01-01 to the date a text writes. -/
def date? (cs : List Char) : Option Int := do
  let (year, rest) ← takeDigits 4 cs
  let (extended, rest) := match rest with
    | '-' :: more => (true, more)
    | _ => (false, rest)
  let days ← match rest with
    | 'W' :: more => weekDate? extended year more
    | _ => monthDate? extended year rest
  if year = 0 ∨ days * day < earliest ∨ latest ≤ days * day then none else some days

/-- The hours, minutes, seconds and microseconds of a time, as far as it
goes, and whether characters are left over. -/
structure ClockReading where
  /-- The parts before the decimals. -/
  parts : List Nat
  /-- The decimals. -/
  micros : Nat
  /-- Whether something follows. -/
  left : Bool

/-- The microseconds that decimals write: six of them count. -/
def decimals? (parts : List Nat) (cs : List Char) : Option ClockReading := do
  let count := min 6 cs.length
  let (n, rest) ← takeDigits count cs
  some ⟨parts, n * Number.tenTo (6 - count), !(rest.dropWhile Char.isDigit).isEmpty⟩

/-- The parts of a time: up to `more + 1` pairs of digits, with or without
colons, and decimals. The first separator tells which. A single character
may be left over, if it is an ASCII one. -/
def clock? (colons : Option Bool) (parts : List Nat) : Nat → List Char → Option ClockReading
  | more, cs => do
    let (n, rest) ← takeDigits 2 cs
    let parts := parts ++ [n]
    match rest with
    | [] => some ⟨parts, 0, false⟩
    | [c] => if c.toNat < 0x80 then some ⟨parts, 0, true⟩ else none
    | c :: after =>
      let colons := colons.getD (c == ':')
      if colons && c == ':' then
        match more with
        | 0 => decimals? parts after
        | more + 1 => clock? (some colons) parts more after
      else if c = '.' ∨ c = ',' then decimals? parts after
      else if !colons then
        match more with
        | 0 => decimals? parts rest
        | more + 1 => clock? (some colons) parts more rest
      else none

/-- The whole seconds of a reading. -/
def ClockReading.seconds (r : ClockReading) : Nat :=
  match r.parts with
  | [h] => h * 3600
  | [h, m] => h * 3600 + m * 60
  | [h, m, s] => h * 3600 + m * 60 + s
  | _ => 0

/-- The microseconds of a reading. -/
def ClockReading.total (r : ClockReading) : Nat := r.seconds * 1000000 + r.micros

/-- Whether a reading is a time of day. -/
def ClockReading.isTimeOfDay (r : ClockReading) : Bool :=
  match r.parts with
  | h :: rest => h < 24 && rest.all (· < 60)
  | [] => false

/-- An offset. A whole number of no seconds is universal time; none reaches a
day. -/
def offset? : List Char → Option Int
  | ['Z'] => some 0
  | sign :: rest => do
    if sign = 'Z' then none
    let r ← clock? none [] 2 rest
    if r.left then none
    let size := if r.seconds = 0 then 0 else r.total
    if day ≤ size then none
    some (if sign = '-' then -(size : Int) else size)
  | [] => none

/-- Whether a character begins an offset. -/
def beginsOffset (c : Char) : Bool := c = '+' ∨ c = '-' ∨ c = 'Z'

/-- A time of day in microseconds, and the offset after it. -/
def timeOfDay? (cs : List Char) : Option (Nat × Option Int) := do
  let r ← clock? none [] 2 (cs.takeWhile fun c => !beginsOffset c)
  if !r.isTimeOfDay then none
  match cs.dropWhile fun c => !beginsOffset c with
  | [] => if r.left then none else some (r.total, none)
  | zone => do
    let offset ← offset? zone
    some (r.total, some offset)

/-- **The instant a text writes.** -/
def ofIso? (s : String) : Option Instant := do
  let cs := s.toList
  let length := dateLength cs
  let days ← date? (cs.take length)
  match cs.drop length with
  | [] => some ⟨days * day, none⟩
  | _ :: time => do
    let (micros, offset) ← timeOfDay? time
    some ⟨days * day + micros - offset.getD 0, offset⟩

end Listening.Instant

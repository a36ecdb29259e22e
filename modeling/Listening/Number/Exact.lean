/-!
# Seconds, exactly

Positions, durations and percentages are binary floating-point numbers.
`Reading` is what such a number stands for: a sign, a mantissa and a power
of two, an infinity, or nothing at all. Every text that shows a number, and
every place where one becomes a whole number, goes through it, so that
rounding is done once and in integers.
-/

namespace Listening.Number

/-- A power of two. -/
def twoTo (exponent : Nat) : Nat := Nat.pow 2 exponent

/-- A power of ten. -/
def tenTo (exponent : Nat) : Nat := Nat.pow 10 exponent

/-- What a floating-point number stands for. -/
inductive Reading where
  /-- `± mantissa * 2 ^ exponent`. -/
  | finite (negative : Bool) (mantissa : Nat) (exponent : Int)
  /-- One of the two infinities. -/
  | infinite (negative : Bool)
  /-- No number. -/
  | undefined
  deriving DecidableEq, Repr

/-- A floating-point number taken apart. -/
def read (x : Float) : Reading :=
  let bits := x.toBits.toNat
  let negative := decide (twoTo 63 ≤ bits)
  let biased : Nat := bits / twoTo 52 % 2048
  let digits : Nat := bits % twoTo 52
  if biased = 2047 then
    if digits = 0 then .infinite negative else .undefined
  else if biased = 0 then .finite negative digits (-1074)
  else .finite negative (digits + twoTo 52) ((biased : Int) - 1075)

/-- A mantissa times a power of two, as a numerator and a denominator. -/
def fraction (mantissa : Nat) (exponent : Int) : Nat × Nat :=
  if 0 ≤ exponent then (mantissa * twoTo exponent.toNat, 1)
  else (mantissa, twoTo (-exponent).toNat)

namespace Reading

/-- The rational number a finite reading stands for. -/
def value? : Reading → Option Rat
  | .finite negative mantissa exponent =>
    let (num, den) := fraction mantissa exponent
    some (mkRat (if negative then -(num : Int) else num) den)
  | _ => none

/-- The whole part, towards zero. -/
def truncate? : Reading → Option Int
  | .finite negative mantissa exponent =>
    let (num, den) := fraction mantissa exponent
    some (if negative then -((num / den : Nat) : Int) else (num / den : Nat))
  | _ => none

end Reading

/-- **A quotient rounded to the nearest whole number**; a tie goes to the
even neighbour. -/
def roundDiv (num den : Nat) : Nat :=
  let whole := num / den
  let twice := 2 * (num % den)
  if twice < den then whole
  else if den < twice then whole + 1
  else if whole % 2 = 0 then whole else whole + 1

/-- The nearest floating-point number to a whole number of units of
`10 ^ -places`. -/
def ofDecimal (units : Int) (places : Nat) : Float :=
  match units with
  | .ofNat n => Float.ofScientific n true places
  | .negSucc n => -(Float.ofScientific (n + 1) true places)

/-- The nearest floating-point number to a whole number. -/
def ofInt (n : Int) : Float := ofDecimal n 0

end Listening.Number

import Listening.Number.Exact

/-!
# Numbers as decimal text

Three ways to show a number:

* `fixed` – a fixed count of decimals, rounded from the exact binary value,
  a tie to the even digit;
* `general` – six significant digits, without trailing zeros, in scientific
  notation below `10 ^ -4` and from `10 ^ 6` on;
* `shortest` – the fewest digits that read back as the same number, always
  with a point or an exponent, in scientific notation below `10 ^ -4` and
  from `10 ^ 16` on.

An infinity is `inf`, what is no number is `nan`.
-/

namespace Listening.Number

/-- A sign, if there is one to show. -/
def signText (negative : Bool) : String := if negative then "-" else ""

/-- Digits, filled up with zeros on the left to a width. -/
def padLeft (width : Nat) (digits : String) : String :=
  .ofList (List.replicate (width - digits.length) '0') ++ digits

/-- A row of characters without the `c` at its end. -/
def dropEnd (c : Char) (cs : List Char) : List Char :=
  (cs.reverse.dropWhile (· == c)).reverse

/-! ## A fixed count of decimals -/

/-- A whole number of units of `10 ^ -places`, with its point. -/
def withPoint (places units : Nat) : String :=
  if places = 0 then Nat.repr units
  else
    Nat.repr (units / tenTo places) ++ "." ++ padLeft places (Nat.repr (units % tenTo places))

/-- **A number with a fixed count of decimals.** -/
def fixed (places : Nat) (x : Float) : String :=
  match read x with
  | .undefined => "nan"
  | .infinite negative => signText negative ++ "inf"
  | .finite negative mantissa exponent =>
    let (num, den) := fraction mantissa exponent
    signText negative ++ withPoint places (roundDiv (num * tenTo places) den)

/-- A number with at most two decimals: trailing zeros go, and then a
trailing point. -/
def brief (x : Float) : String :=
  .ofList (dropEnd '.' (dropEnd '0' (fixed 2 x).toList))

/-! ## Significant digits -/

/-- `num / den * 10 ^ s`, as a numerator and a denominator. -/
def scale (num den : Nat) (s : Int) : Nat × Nat :=
  if 0 ≤ s then (num * tenTo s.toNat, den) else (num, den * tenTo (-s).toNat)

/-- The power of ten of the first digit of `num / den`. -/
def leadingPower (num den : Nat) : Int :=
  let k : Int := (Nat.repr num).length - (Nat.repr den).length
  let (n, d) := scale num den (-k)
  if d ≤ n then k else k - 1

/-- The digits of a positive number and the power of ten of the first one,
in positional notation; `whole` follows a number without decimals. -/
def positional (whole : String) (digits : List Char) (power : Int) : String :=
  if 0 ≤ power then
    let count := power.toNat + 1
    let front := digits.take count ++ List.replicate (count - digits.length) '0'
    match digits.drop count with
    | [] => .ofList front ++ whole
    | rest => .ofList front ++ "." ++ .ofList rest
  else "0." ++ .ofList (List.replicate ((-power).toNat - 1) '0' ++ digits)

/-- Digits in scientific notation: at least two digits of exponent, and its
sign. -/
def scientific (digits : List Char) (power : Int) : String :=
  let front := match digits with
    | [] => "0"
    | [d] => .ofList [d]
    | d :: rest => .ofList (d :: '.' :: rest)
  front ++ (if 0 ≤ power then "e+" else "e-") ++ padLeft 2 (Nat.repr power.natAbs)

/-- The six significant digits of a positive number, and the power of ten of
the first. -/
def sixDigits (num den : Nat) : Nat × Int :=
  let power := leadingPower num den
  let (n, d) := scale num den (5 - power)
  let units := roundDiv n d
  if units = tenTo 6 then (tenTo 5, power + 1) else (units, power)

/-- **A number with six significant digits.** -/
def general (x : Float) : String :=
  match read x with
  | .undefined => "nan"
  | .infinite negative => signText negative ++ "inf"
  | .finite negative mantissa exponent =>
    signText negative ++
      if mantissa = 0 then "0"
      else
        let (num, den) := fraction mantissa exponent
        let (units, power) := sixDigits num den
        let digits := dropEnd '0' (Nat.repr units).toList
        if power < -4 ∨ 6 ≤ power then scientific digits power
        else positional "" digits power

/-! ## The fewest digits that read back -/

/-- The rational number `units * 10 ^ power`. -/
def decimalValue (units : Nat) (power : Int) : Rat :=
  if 0 ≤ power then ((units * tenTo power.toNat : Nat) : Rat)
  else mkRat units (tenTo (-power).toNat)

/-- The rational number `mantissa * 2 ^ exponent`. -/
def binaryValue (mantissa : Nat) (exponent : Int) : Rat :=
  let (num, den) := fraction mantissa exponent
  mkRat num den

/-- **Whether a rational number rounds to `mantissa * 2 ^ exponent`**: it
lies between the midpoints to the two neighbours, and on a midpoint only if
the mantissa is even. Below a power of two the neighbour is nearer. -/
def roundsTo (mantissa : Nat) (exponent : Int) (q : Rat) : Bool :=
  let upper := binaryValue (2 * mantissa + 1) (exponent - 1)
  let lower :=
    if mantissa = twoTo 52 ∧ -1074 < exponent then binaryValue (4 * mantissa - 1) (exponent - 2)
    else binaryValue (2 * mantissa - 1) (exponent - 1)
  if mantissa % 2 = 0 then lower ≤ q ∧ q ≤ upper else lower < q ∧ q < upper

/-- The decimal of `count` digits that is nearest to a positive number among
those that read back as it, if one does. Only the two neighbours of the
number on that grid can. -/
def nearestDecimal? (mantissa : Nat) (exponent : Int) (count : Nat) : Option (Nat × Int) :=
  let (num, den) := fraction mantissa exponent
  let power := leadingPower num den - ((count : Int) - 1)
  let (n, d) := scale num den (-power)
  let below := n / d
  let fits (units : Nat) := roundsTo mantissa exponent (decimalValue units power)
  match fits below, fits (below + 1) with
  | true, false => some (below, power)
  | false, true => some (below + 1, power)
  | true, true => some (roundDiv n d, power)
  | false, false => none

/-- The fewest digits that read back as a positive number, and the power of
ten of their last. Seventeen digits always do. -/
def shortestDigits (mantissa : Nat) (exponent : Int) : Nat × Int :=
  ((List.range 17).findSome? fun i =>
    nearestDecimal? mantissa exponent (i + 1)).getD (mantissa, 0)

/-- **A number in the fewest digits that read back as it.** -/
def shortest (x : Float) : String :=
  match read x with
  | .undefined => "nan"
  | .infinite negative => signText negative ++ "inf"
  | .finite negative mantissa exponent =>
    signText negative ++
      if mantissa = 0 then "0.0"
      else
        let (units, last) := shortestDigits mantissa exponent
        let all := (Nat.repr units).toList
        let power := last + all.length - 1
        let digits := dropEnd '0' all
        if power < -4 ∨ 16 ≤ power then scientific digits power
        else positional ".0" digits power

end Listening.Number

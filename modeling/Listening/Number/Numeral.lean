import Listening.Number.Exact
import Listening.Text.Blank
import Listening.Text.Digit

/-!
# Numerals

A setting, a time or a timestamp is a text that should be a number. White
space around it does not matter – the separators of files, groups, records and
units are none –, the digits may be those of any script, and one underscore
may stand between two digits.

* A whole number is a sign and digits – no more of them than
  `digitLimit`.
* A number has in addition a point and an exponent, or is spelled `inf`,
  `infinity` or `nan`.
-/

namespace Listening.Number

open Listening.Text

/-- The most digits a whole number may have. -/
def digitLimit : Nat := 4300

/-- Whether a character is white space around a numeral. The four separators
of files, groups, records and units are not. -/
def isPadding (c : Char) : Bool := isBlank c && !(28 ≤ c.toNat && c.toNat ≤ 31)

/-- A digit of any script as its ASCII digit; white space as a space; any
other character past ASCII as one no numeral contains. -/
def plainCharacter (c : Char) : Char :=
  match digitValue? c with
  | some v => Char.ofNat ('0'.toNat + v)
  | none => if isPadding c then ' ' else if c.toNat < 0x80 then c else '?'

/-- The characters of a numeral without the white space around it. -/
def numeralCharacters (s : String) : List Char :=
  trimBoth (· == ' ') (s.toList.map plainCharacter)

/-- A row of characters without its underscores, each of which has to stand
between two digits. `before` tells whether a digit came before. -/
def dropUnderscores (before : Bool) : List Char → Option (List Char)
  | [] => some []
  | '_' :: rest =>
    match rest with
    | d :: _ => if before && d.isDigit then dropUnderscores false rest else none
    | [] => none
  | c :: rest => (dropUnderscores c.isDigit rest).map (c :: ·)

/-- A sign, if there is one, and the rest. -/
def takeSign : List Char → Bool × List Char
  | '-' :: rest => (true, rest)
  | '+' :: rest => (false, rest)
  | cs => (false, cs)

/-- The number a row of decimal digits stands for. -/
def digitsValue (cs : List Char) : Nat :=
  cs.foldl (fun n c => n * 10 + (c.toNat - '0'.toNat)) 0

/-- **The whole number a text writes.** -/
def wholeNumber? (s : String) : Option Int := do
  let cs ← dropUnderscores false (numeralCharacters s)
  let (negative, digits) := takeSign cs
  if digits.isEmpty ∨ !digits.all Char.isDigit ∨ digitLimit < digits.length then none
  else some (if negative then -(digitsValue digits : Int) else digitsValue digits)

/-- `units * 10 ^ power`, rounded to the nearest. A power so large or so
small that the digits cannot make up for it gives infinity or zero. -/
def ofUnits (units : Nat) (power : Int) : Float :=
  let digits : Int := (Nat.repr units).length
  if units = 0 then 0
  else if 400 < power + digits then Float.ofScientific 1 false 400
  else if power + digits < -400 then 0
  else if 0 ≤ power then Float.ofScientific units false power.toNat
  else Float.ofScientific units true (-power).toNat

/-- The exponent that ends a number: nothing, or `e` with a sign and
digits. -/
def exponent? : List Char → Option Int
  | [] => some 0
  | c :: rest =>
    let (negative, digits) := takeSign rest
    if c.toLower ≠ 'e' ∨ digits.isEmpty ∨ !digits.all Char.isDigit then none
    else some (if negative then -(digitsValue digits : Int) else digitsValue digits)

/-- A number without its sign: digits around an optional point, at least one
of them, and an exponent. -/
def magnitude? (cs : List Char) : Option Float := do
  let whole := cs.takeWhile Char.isDigit
  let rest := cs.dropWhile Char.isDigit
  let (decimals, rest) := match rest with
    | '.' :: more => (more.takeWhile Char.isDigit, more.dropWhile Char.isDigit)
    | _ => ([], rest)
  if whole.isEmpty ∧ decimals.isEmpty then none
  else
    let power ← exponent? rest
    some (ofUnits (digitsValue (whole ++ decimals)) (power - decimals.length))

/-- An infinity, which no digits write. -/
def infinity : Float := Float.ofScientific 1 false 400

/-- What is no number. -/
def notANumber : Float := infinity - infinity

/-- **The number a text writes.** -/
def number? (s : String) : Option Float := do
  let cs ← dropUnderscores false (numeralCharacters s)
  let (negative, rest) := takeSign cs
  let x ← match String.ofList (rest.map Char.toLower) with
    | "inf" => some infinity
    | "infinity" => some infinity
    | "nan" => some notANumber
    | _ => magnitude? rest
  some (if negative then -x else x)

end Listening.Number

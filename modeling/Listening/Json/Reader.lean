import Listening.Json
import Listening.Number.Numeral

/-!
# Reading JSON

A reader of JSON text that also takes `NaN`, `Infinity` and `-Infinity` for
numbers. Of two fields of one name the last one counts. A text is refused
as malformed, except that a whole number of too many digits and lists too
deep inside one another are refusals of their own.

The reader looks at every character at most a few times; how often it goes
on is bounded by the count of characters, which `Json.ofText` supplies.
-/

namespace Listening.Json

/-- Why a text is not read as JSON. -/
inductive Refusal where
  /-- It is no JSON. -/
  | malformed
  /-- A whole number in it has more digits than are read. -/
  | tooManyDigits
  /-- Too many lists and objects are inside one another. -/
  | tooDeep
  deriving DecidableEq, Repr

/-- How many lists and objects may be inside one another. -/
def depthLimit : Nat := 988

/-- The blanks that may stand between the parts of a JSON text. -/
def isSpace (c : Char) : Bool := c = ' ' ∨ c = '\t' ∨ c = '\n' ∨ c = '\r'

/-- A row of characters without the blanks in front. -/
def skip (cs : List Char) : List Char := cs.dropWhile isSpace

/-- The value of a hexadecimal digit. -/
def hexValue? (c : Char) : Option Nat :=
  if '0' ≤ c ∧ c ≤ '9' then some (c.toNat - '0'.toNat)
  else if 'a' ≤ c ∧ c ≤ 'f' then some (c.toNat - 'a'.toNat + 10)
  else if 'A' ≤ c ∧ c ≤ 'F' then some (c.toNat - 'A'.toNat + 10)
  else none

/-- Four hexadecimal digits. -/
def takeHex4 : List Char → Option (Nat × List Char)
  | a :: b :: c :: d :: rest => do
    let a ← hexValue? a
    let b ← hexValue? b
    let c ← hexValue? c
    let d ← hexValue? d
    some (((a * 16 + b) * 16 + c) * 16 + d, rest)
  | _ => none

/-- The character of an escape by number. Two numbers that form a pair stand
for one character past the basic plane. -/
def takeNumbered (cs : List Char) : Option (Char × List Char) := do
  let (high, rest) ← takeHex4 cs
  if 0xD800 ≤ high ∧ high < 0xDC00 then
    match rest with
    | '\\' :: 'u' :: more =>
      match takeHex4 more with
      | some (low, after) =>
        if 0xDC00 ≤ low ∧ low < 0xE000 then
          some (Char.ofNat (0x10000 + (high - 0xD800) * 0x400 + (low - 0xDC00)), after)
        else some ('\uFFFD', rest)
      | none => some ('\uFFFD', rest)
    | _ => some ('\uFFFD', rest)
  else if 0xDC00 ≤ high ∧ high < 0xE000 then some ('\uFFFD', rest)
  else some (Char.ofNat high, rest)

/-- The character of an escape, after its backslash. -/
def takeEscape : List Char → Option (Char × List Char)
  | '"' :: rest => some ('"', rest)
  | '\\' :: rest => some ('\\', rest)
  | '/' :: rest => some ('/', rest)
  | 'b' :: rest => some ('\x08', rest)
  | 'f' :: rest => some ('\x0c', rest)
  | 'n' :: rest => some ('\n', rest)
  | 'r' :: rest => some ('\r', rest)
  | 't' :: rest => some ('\t', rest)
  | 'u' :: rest => takeNumbered rest
  | _ => none

/-- The rest of a text, after its opening quote. -/
def takeString : Nat → List Char → List Char → Except Refusal (String × List Char)
  | 0, _, _ => .error .malformed
  | fuel + 1, cs, found =>
    match cs with
    | [] => .error .malformed
    | '"' :: rest => .ok (.ofList found.reverse, rest)
    | '\\' :: rest =>
      match takeEscape rest with
      | some (c, more) => takeString fuel more (c :: found)
      | none => .error .malformed
    | c :: rest =>
      if c.toNat < 0x20 then .error .malformed else takeString fuel rest (c :: found)

/-- The digits of a whole number: none may follow a leading zero. -/
def takeWhole : List Char → Option (List Char × List Char)
  | '0' :: rest => some (['0'], rest)
  | cs =>
    match cs.takeWhile Char.isDigit with
    | [] => none
    | digits => some (digits, cs.dropWhile Char.isDigit)

/-- Decimals after a point, if both are there. -/
def takeDecimals (cs : List Char) : List Char × List Char :=
  match cs with
  | '.' :: rest =>
    match rest.takeWhile Char.isDigit with
    | [] => ([], cs)
    | digits => (digits, rest.dropWhile Char.isDigit)
  | _ => ([], cs)

/-- An exponent, if a whole one is there. -/
def takeExponent (cs : List Char) : Option Int × List Char :=
  match cs with
  | c :: rest =>
    if c = 'e' ∨ c = 'E' then
      let (negative, more) := Number.takeSign rest
      match more.takeWhile Char.isDigit with
      | [] => (none, cs)
      | digits =>
        let n : Int := Number.digitsValue digits
        (some (if negative then -n else n), more.dropWhile Char.isDigit)
    else (none, cs)
  | [] => (none, cs)

/-- A number, after its sign. -/
def takeNumber (negative : Bool) (cs : List Char) : Except Refusal (Json × List Char) :=
  match takeWhole cs with
  | none => .error .malformed
  | some (whole, rest) =>
    let (decimals, rest) := takeDecimals rest
    let (exponent, rest) := takeExponent rest
    if decimals.isEmpty && exponent.isNone then
      if Number.digitLimit < whole.length then .error .tooManyDigits
      else
        let n : Int := Number.digitsValue whole
        .ok (.int (if negative then -n else n), rest)
    else
      let x := Number.ofUnits (Number.digitsValue (whole ++ decimals))
        (exponent.getD 0 - decimals.length)
      .ok (.float (if negative then -x else x), rest)

/-- The rest of a row of characters after a word. -/
def after? : List Char → List Char → Option (List Char)
  | [], cs => some cs
  | w :: word, c :: cs => if w = c then after? word cs else none
  | _ :: _, [] => none

/-- A value that is one word. -/
def takeWord (cs : List Char) : Option (Json × List Char) :=
  ((after? "null".toList cs).map fun rest => (.null, rest))
    <|> ((after? "true".toList cs).map fun rest => (.bool true, rest))
    <|> ((after? "false".toList cs).map fun rest => (.bool false, rest))
    <|> ((after? "NaN".toList cs).map fun rest => (.float Number.notANumber, rest))
    <|> ((after? "Infinity".toList cs).map fun rest => (.float Number.infinity, rest))
    <|> ((after? "-Infinity".toList cs).map fun rest => (.float (-Number.infinity), rest))

mutual

/-- A value inside `depth` lists and objects, without blanks in front. -/
def takeValue (depth : Nat) : Nat → List Char → Except Refusal (Json × List Char)
  | 0, _ => .error .malformed
  | fuel + 1, cs =>
    match takeWord cs with
    | some found => .ok found
    | none =>
      match cs with
      | '"' :: rest => do
        let (s, more) ← takeString (rest.length + 1) rest []
        .ok (.str s, more)
      | '[' :: rest =>
        if depthLimit ≤ depth then .error .tooDeep
        else
          match skip rest with
          | ']' :: more => .ok (.arr [], more)
          | more => takeItems (depth + 1) fuel more []
      | '\x7b' :: rest =>
        if depthLimit ≤ depth then .error .tooDeep
        else
          match skip rest with
          | '\x7d' :: more => .ok (.obj [], more)
          | more => takeFields (depth + 1) fuel more []
      | '-' :: rest => takeNumber true rest
      | _ => takeNumber false cs

/-- The items of a list and its closing bracket. -/
def takeItems (depth : Nat) :
    Nat → List Char → List Json → Except Refusal (Json × List Char)
  | 0, _, _ => .error .malformed
  | fuel + 1, cs, found => do
    let (v, rest) ← takeValue depth fuel cs
    match skip rest with
    | ',' :: more => takeItems depth fuel (skip more) (v :: found)
    | ']' :: more => .ok (.arr (v :: found).reverse, more)
    | _ => .error .malformed

/-- The fields of an object and its closing brace. -/
def takeFields (depth : Nat) :
    Nat → List Char → List (String × Json) → Except Refusal (Json × List Char)
  | 0, _, _ => .error .malformed
  | fuel + 1, cs, found =>
    match cs with
    | '"' :: rest => do
      let (k, rest) ← takeString (rest.length + 1) rest []
      match skip rest with
      | ':' :: more => do
        let (v, rest) ← takeValue depth fuel (skip more)
        match skip rest with
        | ',' :: more => takeFields depth fuel (skip more) ((k, v) :: found)
        | '\x7d' :: more => .ok (.obj (collect ((k, v) :: found).reverse), more)
        | _ => .error .malformed
      | _ => .error .malformed
    | _ => .error .malformed

end

/-- **The value a JSON text writes.** -/
def ofText (s : String) : Except Refusal Json := do
  let cs := s.toList
  let (v, rest) ← takeValue 0 (cs.length + 2) (skip cs)
  if (skip rest).isEmpty then .ok v else .error .malformed

end Listening.Json

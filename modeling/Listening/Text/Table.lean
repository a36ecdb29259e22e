import Std.Data.HashMap

/-!
# Tables of characters

Which characters are letters, which are marks, and what each one folds to
are data of a standard. The tables of this folder write them as text:
a set is a row of inclusive ranges `lo-hi` in hexadecimal, a map is a row
of entries `key=value,value,…`. This module reads both notations, and
looks a character up.

ASCII never reaches a table: each property decides it directly, so that
what is plain stays plain to evaluate.
-/

namespace Listening.Text

/-- The value of a hexadecimal digit, upper case. -/
def hexDigit (c : Char) : Nat :=
  if '0' ≤ c ∧ c ≤ '9' then c.toNat - '0'.toNat else c.toNat - 'A'.toNat + 10

/-- The number a row of hexadecimal digits stands for. -/
def hexNumber (s : String) : Nat :=
  s.foldl (fun n c => n * 16 + hexDigit c) 0

/-- **A set of characters**, as disjoint inclusive ranges in increasing
order. -/
structure Ranges where
  /-- The first and last code point of each range. -/
  bounds : Array (Nat × Nat)

namespace Ranges

/-- The ranges a table text writes; a range of one character is written as
that character alone. -/
def ofText (s : String) : Ranges :=
  ⟨(s.splitToList Char.isWhitespace).toArray.filterMap fun word =>
    match word.splitOn "-" with
    | [one] => if one.isEmpty then none else some (hexNumber one, hexNumber one)
    | [lo, hi] => some (hexNumber lo, hexNumber hi)
    | _ => none⟩

/-- Whether code point `n` lies in one of the ranges numbered `lo` up to
`hi`. The ranges are sorted, so the search halves. -/
def search (r : Ranges) (n : Nat) (lo hi : Nat) : Bool :=
  if _h : lo < hi then
    let mid := (lo + hi) / 2
    match r.bounds[mid]? with
    | none => false
    | some (first, last) =>
      if n < first then r.search n lo mid
      else if last < n then r.search n (mid + 1) hi
      else true
  else false
termination_by hi - lo

/-- Whether a character is in the set. -/
def contains (r : Ranges) (c : Char) : Bool :=
  r.search c.toNat 0 r.bounds.size

end Ranges

/-- **A map from characters to texts**, for the characters that a map does
not leave as they are. -/
abbrev CharMap := Std.HashMap Nat (List Char)

namespace CharMap

/-- The map a table text writes. -/
def ofText (s : String) : CharMap :=
  (s.splitToList Char.isWhitespace).foldl (fun m word =>
    match word.splitOn "=" with
    | [key, values] =>
      m.insert (hexNumber key) ((values.splitOn ",").map fun v => Char.ofNat (hexNumber v))
    | _ => m) ∅

/-- What a character becomes. -/
def apply (m : CharMap) (c : Char) : List Char :=
  (m[c.toNat]?).getD [c]

end CharMap

end Listening.Text

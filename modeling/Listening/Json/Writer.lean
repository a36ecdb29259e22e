import Listening.Json

/-!
# Writing JSON

One writer serves two layouts. A state file is indented, holds ASCII only,
keeps the order of fields and writes a number in the fewest digits that
read back. A report is one line, with sorted fields and numbers of a fixed
form. What differs is a `Style`.
-/

namespace Listening.Json

/-- **What two layouts of JSON differ in.** -/
structure Style where
  /-- How a number with a point is written. -/
  number : Float → String
  /-- Whether only ASCII is written. -/
  ascii : Bool
  /-- Whether the fields of an object are sorted by name. -/
  sorted : Bool
  /-- How many blanks each level is indented by; none puts all on one line. -/
  indent : Option Nat

/-- An escape by number, for a number below `2 ^ 16`. -/
def numbered (n : Nat) : List Char := '\\' :: 'u' :: Text.hexPadded 4 n

/-- A character as it stands in a text. -/
def escaped (ascii : Bool) (c : Char) : List Char :=
  if c = '"' then ['\\', '"']
  else if c = '\\' then ['\\', '\\']
  else if c = '\n' then ['\\', 'n']
  else if c = '\r' then ['\\', 'r']
  else if c = '\t' then ['\\', 't']
  else if c = '\x08' then ['\\', 'b']
  else if c = '\x0c' then ['\\', 'f']
  else if c.toNat < 0x20 then numbered c.toNat
  else if !ascii || c.toNat < 0x7F then [c]
  else if c.toNat < 0x10000 then numbered c.toNat
  else
    let n := c.toNat - 0x10000
    numbered (0xD800 + n / 0x400) ++ numbered (0xDC00 + n % 0x400)

/-- A text in its quotes. -/
def writeString (ascii : Bool) (s : String) : String :=
  "\"" ++ .ofList (s.toList.flatMap (escaped ascii)) ++ "\""

/-- The number of a state file. -/
def fileNumber (x : Float) : String :=
  match Number.read x with
  | .undefined => "NaN"
  | .infinite negative => Number.signText negative ++ "Infinity"
  | .finite .. => Number.shortest x

/-- The layout of a state file. -/
def Style.file : Style := ⟨fileNumber, true, false, some 2⟩

/-- The number of a report: six decimals, and a text for what has none. -/
def reportNumber (x : Float) : String :=
  match Number.read x with
  | .undefined => "\"NaN\""
  | .infinite negative => "\"" ++ Number.signText negative ++ "Infinity\""
  | .finite .. => Number.fixed 6 x

/-- The layout of a report. -/
def Style.report : Style := ⟨reportNumber, false, true, none⟩

/-- What separates the parts of a list or object at a depth. -/
def Style.break (style : Style) (depth : Nat) : String :=
  match style.indent with
  | none => ""
  | some n => "\n" ++ .ofList (List.replicate (n * depth) ' ')

/-- Parts of a list or an object between brackets. -/
def Style.enclose (style : Style) (depth : Nat) (opening closing : String)
    (parts : List String) : String :=
  match parts with
  | [] => opening ++ closing
  | _ =>
    opening ++ style.break (depth + 1)
      ++ String.intercalate ("," ++ style.break (depth + 1)) parts
      ++ style.break depth ++ closing

/-- Written fields, in the order of the style. -/
def Style.arrange (style : Style) (parts : List (String × String)) : List (String × String) :=
  if style.sorted then parts.mergeSort fun a b => decide (a.1 ≤ b.1) else parts

mutual

/-- A value at a depth. -/
def writeAt (style : Style) (depth : Nat) : Json → String
  | .null => "null"
  | .bool b => if b then "true" else "false"
  | .int n => toString n
  | .float x => style.number x
  | .str s => writeString style.ascii s
  | .arr items => style.enclose depth "[" "]" (writeItems style (depth + 1) items)
  | .obj fields =>
    let colon := if style.indent.isSome then ": " else ":"
    style.enclose depth "\x7b" "\x7d"
      ((style.arrange (writeFields style (depth + 1) fields)).map fun p =>
        writeString style.ascii p.1 ++ colon ++ p.2)

/-- The items of a list at a depth. -/
def writeItems (style : Style) (depth : Nat) : List Json → List String
  | [] => []
  | v :: rest => writeAt style depth v :: writeItems style depth rest

/-- The fields of an object at a depth. -/
def writeFields (style : Style) (depth : Nat) : List (String × Json) → List (String × String)
  | [] => []
  | (k, v) :: rest => (k, writeAt style depth v) :: writeFields style depth rest

end

/-- **A value in a layout.** -/
def write (style : Style) (v : Json) : String := writeAt style 0 v

end Listening.Json

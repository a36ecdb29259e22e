import Listening.Fault
import Listening.Number.Numeral
import Listening.Text.Normal

/-!
# Labels and amounts

Sources promise a text for a title, an artist, an album, and a number of
seconds for a duration. What they deliver instead is kept as it came: a
`Label` is a text, nothing, or something else, and an `Amount` is a number
of seconds, nothing, or something else. Shown in a message, compared with
its like and written to a file, something else is as good as a text;
normalized or counted with, it is a fault.
-/

namespace Listening

/-- **What a source says where a text belongs.** -/
inductive Label where
  /-- Nothing. -/
  | absent
  /-- A text. -/
  | text (s : String)
  /-- Something else. -/
  | other (v : Json)

namespace Label

/-- The label a JSON value makes. -/
def ofJson : Json → Label
  | .null => .absent
  | .str s => .text s
  | v => .other v

/-- A label as a JSON value. -/
def toJson : Label → Json
  | .absent => .null
  | .text s => .str s
  | .other v => v

/-- The label of a text that may be missing. -/
def ofText? : Option String → Label
  | none => .absent
  | some s => .text s

/-- Whether a label says anything. -/
def isGiven (l : Label) : Bool := l.toJson.truthy

/-- A label as it stands in a message. -/
def display (l : Label) : String := l.toJson.display

/-- What is compared when two labels are. -/
def key (l : Label) : Json.Key := l.toJson.key

/-- Whether two labels are equal. -/
def alike (a b : Label) : Bool := a.toJson.alike b.toJson

/-- Whether a label is there. -/
def isPresent : Label → Bool
  | .absent => false
  | _ => true

/-- Whether a label is a text. -/
def isText : Label → Bool
  | .text _ => true
  | _ => false

/-- The text of a label. -/
def text? : Label → Except Fault String
  | .text s => .ok s
  | _ => .error .notText

/-- **The normal form of a label.** One that says nothing has the empty
one. -/
def normal? : Label → Except Fault String
  | .absent => .ok ""
  | .text s => .ok (Text.normalize s)
  | .other v => if v.truthy then .error .notText else .ok ""

/-- A text in lower case; nothing said is the empty text. -/
def lower? (l : Label) : Except Fault String :=
  if l.isGiven then
    match l with
    | .text s => .ok (Text.lowercase s)
    | _ => .error .notRecord
  else .ok ""

end Label

/-- **What a source says where a number of seconds belongs.** -/
inductive Amount where
  /-- Nothing. -/
  | absent
  /-- A number of seconds. -/
  | seconds (x : Float)
  /-- Something else. -/
  | other (v : Json)

namespace Amount

/-- The amount a JSON value makes. A whole number stays one, as it is
written back the way it was read. -/
def ofJson : Json → Amount
  | .null => .absent
  | .float x => .seconds x
  | v => .other v

/-- An amount as a JSON value. -/
def toJson : Amount → Json
  | .absent => .null
  | .seconds x => .float x
  | .other v => v

/-- The amount of a number that may be missing. -/
def ofSeconds? : Option Float → Amount
  | none => .absent
  | some x => .seconds x

/-- Whether an amount is there and not zero. -/
def counts (a : Amount) : Bool := a.toJson.truthy

/-- What is compared when two amounts are. -/
def key (a : Amount) : Json.Key := a.toJson.key

/-- The number of seconds, if there is an amount. -/
def number? : Amount → Except Fault (Option Float)
  | .absent => .ok none
  | .seconds x => .ok (some x)
  | .other (.int n) => .ok (some (Number.ofInt n))
  | .other (.bool b) => .ok (some (if b then 1 else 0))
  | .other _ => .error .notNumber

/-- The number of seconds, if there is an amount and it is not zero. -/
def counted? (a : Amount) : Except Fault (Option Float) :=
  if a.counts then a.number? else .ok none

/-- The whole seconds of a number, towards zero. -/
def wholeOf? (x : Float) : Except Fault Int :=
  match Number.read x with
  | .undefined => .error .undefinedNumber
  | .infinite _ => .error .endlessNumber
  | r => .ok (r.truncate?.getD 0)

/-- **The whole seconds of an amount**, towards zero. A text may write
them. -/
def whole? : Amount → Except Fault (Option Int)
  | .absent => .ok none
  | .seconds x => (wholeOf? x).map some
  | .other (.int n) => .ok (some n)
  | .other (.bool b) => .ok (some (if b then 1 else 0))
  | .other (.str s) => match Number.wholeNumber? s with
    | some n => .ok (some n)
    | none => .error .noNumeral
  | .other _ => .error .notNumber

/-- The first of two amounts that counts, and else the second. -/
def orElse (a b : Amount) : Amount := if a.counts then a else b

end Amount

end Listening

import Listening.Entries
import Listening.Number.Decimal
import Listening.Text.Quoted

/-!
# JSON values

What a state file holds, what a source reports about a track, and the extra
fields of a notification are JSON values. Whole numbers and numbers with a
point are kept apart, as a value read from a file is written back the way
it was; for comparing, `Json.key` forgets the difference.

The fields of an object keep the order in which they were first set.
-/

namespace Listening

/-- **A JSON value.** -/
inductive Json where
  /-- The absent value. -/
  | null
  /-- A truth value. -/
  | bool (b : Bool)
  /-- A whole number. -/
  | int (n : Int)
  /-- A number written with a point or an exponent. -/
  | float (x : Float)
  /-- A text. -/
  | str (s : String)
  /-- A list. -/
  | arr (items : List Json)
  /-- An object, its fields in order. -/
  | obj (fields : List (String × Json))
  deriving Inhabited

namespace Json

/-! ## Objects -/

/-- A field of a row of fields. -/
def lookup (key : String) (fields : List (String × Json)) : Option Json :=
  fields.lookup key

/-- A row of fields with one set. -/
def insert (key : String) (value : Json) (fields : List (String × Json)) :
    List (String × Json) :=
  Entries.put key value fields

/-- The fields of a row of settings, of which the last one for a key
counts. -/
def collect (pairs : List (String × Json)) : List (String × Json) := Entries.putAll pairs []

/-- A field that was set is found. -/
theorem lookup_insert_self (key : String) (value : Json) (fields : List (String × Json)) :
    lookup key (insert key value fields) = some value :=
  Entries.lookup_put_self key value fields

/-- Setting one field leaves every other as it was. -/
theorem lookup_insert_of_ne {key other : String} (h : other ≠ key) (value : Json)
    (fields : List (String × Json)) :
    lookup other (insert key value fields) = lookup other fields :=
  Entries.lookup_put_of_ne h value fields

/-! ## Truth and display -/

/-- Whether a value says anything: all do but the absent one, `false`,
zero, and the empty text, list and object. -/
def truthy : Json → Bool
  | .null => false
  | .bool b => b
  | .int n => n != 0
  | .float x => !(x == 0)
  | .str s => !s.isEmpty
  | .arr items => !items.isEmpty
  | .obj fields => !fields.isEmpty

mutual

/-- A value as it stands inside a list or an object of a message. -/
def inner : Json → String
  | .null => "None"
  | .bool b => if b then "True" else "False"
  | .int n => toString n
  | .float x => Number.shortest x
  | .str s => Text.quoted s
  | .arr items => "[" ++ innerItems items ++ "]"
  | .obj fields => "\x7b" ++ innerFields fields ++ "\x7d"

/-- The items of a list in a message. -/
def innerItems : List Json → String
  | [] => ""
  | [v] => inner v
  | v :: rest => inner v ++ ", " ++ innerItems rest

/-- The fields of an object in a message. -/
def innerFields : List (String × Json) → String
  | [] => ""
  | [(k, v)] => Text.quoted k ++ ": " ++ inner v
  | (k, v) :: rest => Text.quoted k ++ ": " ++ inner v ++ ", " ++ innerFields rest

end

/-- **A value as it stands in a message**: a text is shown as it is. -/
def display : Json → String
  | .str s => s
  | v => v.inner

/-! ## Comparison -/

/-- **What is compared when two values are.** Numbers are compared by what
they stand for, however they are written, and a truth value counts as one or
zero. -/
inductive Key where
  /-- The absent value. -/
  | absent
  /-- A text. -/
  | text (s : String)
  /-- A number. -/
  | number (q : Rat)
  /-- An infinity. -/
  | infinite (negative : Bool)
  /-- What is no number, and equal to nothing. -/
  | undefined
  /-- A list or an object, by its items. -/
  | compound (form : String)
  deriving DecidableEq

namespace Key

/-- The key of a floating-point number. -/
def ofFloat (x : Float) : Key :=
  match Number.read x with
  | .undefined => .undefined
  | .infinite negative => .infinite negative
  | r => .number (r.value?.getD 0)

/-- The key as part of the form of a list or an object. -/
def form : Key → String
  | .absent => "null"
  | .text s => Text.quoted s
  | .number q => toString q.num ++ "/" ++ toString q.den
  | .infinite negative => if negative then "-inf" else "inf"
  | .undefined => "nan"
  | .compound form => form

end Key

mutual

/-- The key of a value. -/
def key : Json → Key
  | .null => .absent
  | .bool b => .number (if b then 1 else 0)
  | .int n => .number n
  | .float x => .ofFloat x
  | .str s => .text s
  | .arr items => .compound ("[" ++ itemForms items ++ "]")
  | .obj fields =>
    .compound ("\x7b" ++ String.join ((fieldForms fields).mergeSort fun a b => decide (a ≤ b))
      ++ "\x7d")

/-- The keys of the items of a list, in one text. -/
def itemForms : List Json → String
  | [] => ""
  | v :: rest => (key v).form ++ "," ++ itemForms rest

/-- The keys of the fields of an object, each in one text. -/
def fieldForms : List (String × Json) → List String
  | [] => []
  | (k, v) :: rest => (Text.quoted k ++ ":" ++ (key v).form ++ ",") :: fieldForms rest

end

/-- Whether two values are equal. -/
def alike (a b : Json) : Bool :=
  a.key = b.key ∧ a.key ≠ .undefined

/-- Whether a value can label an entry of an index: a list or an object
cannot. -/
def indexable : Json → Bool
  | .arr _ => false
  | .obj _ => false
  | _ => true

end Json

end Listening

import Listening.Match.Identity

/-!
# The difference between two lists

A source lists what was played lately, every time anew. `ListDiff` says
where each entry of one list is in the next: *kept*, in its place or moved,
*added*, or *deleted*.

Entries are paired by key. If a key occurs more than once, its first
occurrence in the one list goes with the first one in the other, its second
with the second, and so on; with `fromEnd` they are counted from the end.
So as many entries as possible are kept.
-/

namespace Listening

/-- **What became of one entry.** -/
inductive ListDiff.Entry where
  /-- It is in both lists, at these places. -/
  | kept (prev new : Nat)
  /-- It is only in the new list. -/
  | added (new : Nat)
  /-- It is only in the previous list. -/
  | deleted (prev : Nat)
  deriving DecidableEq, Repr

/-- **What became of a list.** -/
inductive ListDiff.Outcome where
  /-- Nothing changed. -/
  | equal
  /-- There was nothing before. -/
  | added
  /-- There is nothing any more. -/
  | deleted
  /-- Anything else. -/
  | updated
  deriving DecidableEq, Repr

/-- **The difference between two lists**: the entries of the new list in
order, and after them the deleted ones of the previous list in order. -/
structure ListDiff where
  /-- What became of the list. -/
  outcome : ListDiff.Outcome
  /-- What became of each entry. -/
  entries : List ListDiff.Entry
  deriving DecidableEq, Repr

namespace ListDiff

namespace Entry

/-- The place in the previous list. -/
def prev? : Entry → Option Nat
  | .kept i _ => some i
  | .added _ => none
  | .deleted i => some i

/-- The place in the new list. -/
def new? : Entry → Option Nat
  | .kept _ j => some j
  | .added j => some j
  | .deleted _ => none

/-- The word for what became of an entry. -/
def word : Entry → String
  | .kept i j => if i = j then "equal" else "moved"
  | .added _ => "added"
  | .deleted _ => "deleted"

/-- Whether an entry is where it was. -/
def isEqual : Entry → Bool
  | .kept i j => i = j
  | _ => false

/-- Whether an entry is new. -/
def isAdded : Entry → Bool
  | .added _ => true
  | _ => false

/-- Whether an entry is gone. -/
def isDeleted : Entry → Bool
  | .deleted _ => true
  | _ => false

/-- The places of an entry in both lists. -/
def kept? : Entry → Option (Nat × Nat)
  | .kept i j => some (i, j)
  | _ => none

end Entry

/-! ## Pairing -/

variable {κ : Type} [BEq κ]

/-- Takes the first entry with a key out of a list. -/
def take (key : κ) : List (κ × Nat) → Option (Nat × List (κ × Nat))
  | [] => none
  | (k, i) :: rest =>
    if k == key then some (i, rest)
    else (take key rest).map fun (j, others) => (j, (k, i) :: others)

/-- **Pairs the entries of a new list with those of the previous one**, in
order. What is left over of the previous list comes second. -/
def pair : List (κ × Nat) → List (κ × Nat) → List Entry × List (κ × Nat)
  | prev, [] => ([], prev)
  | prev, (key, j) :: rest =>
    match take key prev with
    | some (i, left) =>
      let (entries, left) := pair left rest
      (.kept i j :: entries, left)
    | none =>
      let (entries, left) := pair prev rest
      (.added j :: entries, left)

/-- What became of each entry. -/
def entriesOfKeys (prev new : List κ) (fromEnd : Bool := false) : List Entry :=
  if fromEnd then
    let (entries, left) := pair prev.zipIdx.reverse new.zipIdx.reverse
    entries.reverse ++ left.reverse.map fun p => .deleted p.2
  else
    let (entries, left) := pair prev.zipIdx new.zipIdx
    entries ++ left.map fun p => .deleted p.2

/-- **The difference between two lists of keys.** -/
def ofKeys (prev new : List κ) (fromEnd : Bool := false) : ListDiff :=
  let entries := entriesOfKeys prev new fromEnd
  let outcome :=
    if entries.all Entry.isEqual then .equal
    else if prev.isEmpty then .added
    else if new.isEmpty then .deleted
    else .updated
  ⟨outcome, entries⟩

/-! ## Lists of plays -/

/-- **The difference between two lists of plays**, by what was played. If one
of them is empty, nothing has to be compared. -/
def ofPlays? (prev new : List Play) (fromEnd : Bool := false) : Except Fault ListDiff :=
  if prev.isEmpty || new.isEmpty then
    .ok (ofKeys (prev.map fun _ => ()) (new.map fun _ => ()) fromEnd)
  else do
    let a ← prev.mapM Play.label?
    let b ← new.mapM Play.label?
    .ok (ofKeys a b fromEnd)

/-- The places of the added entries in the new list. -/
def addedPlaces (d : ListDiff) : List Nat :=
  d.entries.filterMap fun e => match e with
    | .added j => some j
    | _ => none

/-- The places of the deleted entries in the previous list. -/
def deletedPlaces (d : ListDiff) : List Nat :=
  d.entries.filterMap fun e => match e with
    | .deleted i => some i
    | _ => none

/-- The places in the previous list of the entries that were kept, in their
new order. -/
def keptPlaces (d : ListDiff) : List Nat :=
  d.entries.filterMap fun e => match e with
    | .kept i _ => some i
    | _ => none

/-- Whether two lists hold the same plays in the same order. -/
def isSame? (a b : List Play) : Except Fault Bool :=
  (ofPlays? a b).map fun d => d.outcome = .equal

/-! ## Small facts -/

/-- There is one entry for every entry of the new list. -/
theorem map_new?_pair (prev new : List (κ × Nat)) :
    (pair prev new).1.map Entry.new? = new.map fun p => some p.2 := by
  induction new generalizing prev with
  | nil => simp [pair]
  | cons p rest ih =>
    obtain ⟨key, j⟩ := p
    unfold pair
    split <;> simp [ih, Entry.new?]

end ListDiff

end Listening

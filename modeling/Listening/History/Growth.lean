import Listening.History.ListDiff

/-!
# How a list has grown

A list of what was played lately grows at its top. `Growth` says whether a
list is the previous one with entries added at one end only – where entries
may have dropped off the other end – and `Bump` whether it is the previous
one with a single entry moved to an end. Everything else has no simple
explanation.
-/

namespace Listening

/-- **Where entries were added.** -/
inductive Place where
  /-- On top. -/
  | prepend
  /-- At the bottom. -/
  | append
  /-- Anywhere else. -/
  | insert
  deriving DecidableEq, Repr

/-- The word for a place. -/
def Place.word : Place → String
  | .prepend => "prepend"
  | .append => "append"
  | .insert => "insert"

/-- **How a list has grown.** -/
inductive Growth where
  /-- No entry was added, or one of the lists is empty. -/
  | none
  /-- Entries were added elsewhere, or others have changed as well. -/
  | insert
  /-- A number of entries were added on top. -/
  | prepend (count : Nat)
  /-- A number of entries were added at the bottom. -/
  | append (count : Nat)
  deriving DecidableEq, Repr

namespace Growth

/-- Where entries were added. -/
def place? : Growth → Option Place
  | .none => Option.none
  | .insert => some .insert
  | .prepend _ => some .prepend
  | .append _ => some .append

/-- Whether entries were added at one end only. -/
def isClean : Growth → Bool
  | .prepend _ => true
  | .append _ => true
  | _ => false

/-- Whether entries were added on top only. -/
def isPrepend : Growth → Bool
  | .prepend _ => true
  | _ => false

/-- The entries of the new list that were added at one end. -/
def plays {α : Type} (new : List α) : Growth → List α
  | .prepend count => new.take count
  | .append count => new.drop (new.length - count)
  | _ => []

/-- Whether a row of numbers increases at every step. -/
def increases : List Nat → Bool
  | a :: b :: rest => a < b && increases (b :: rest)
  | _ => true

/-- **How a list of `length` entries has grown**, going by its difference
from the previous one. Entries that were kept must keep their order, and
entries may only have dropped off the far end. -/
def ofDiff (d : ListDiff) (length : Nat) : Growth :=
  let added := d.addedPlaces
  let kept := d.keptPlaces
  if d.outcome ≠ .updated || added.isEmpty then .none
  else
    match kept.head?, kept.getLast? with
    | some first, some last =>
      let count := added.length
      if !increases kept then .insert
      else if added == List.range count && d.deletedPlaces.all (last < ·) then .prepend count
      else if added == List.range' (length - count) count && d.deletedPlaces.all (· < first) then
        .append count
      else .insert
    | _, _ => .insert

/-- **How a list of plays has grown.** A play that was repeated right after
itself is only seen to be added on top when plays are paired from the end of
the lists. -/
def ofPlays? (prev new : List Play) : Except Fault Growth := do
  let found := ofDiff (← ListDiff.ofPlays? prev new) new.length
  if found.isPrepend then .ok found
  else
    let fromTail := ofDiff (← ListDiff.ofPlays? prev new true) new.length
    .ok (if fromTail.isPrepend then fromTail else found)

end Growth

/-- **Whether one entry was moved to an end.** -/
inductive Bump where
  /-- It was not that. -/
  | none
  /-- One was moved to the top. -/
  | toTop
  /-- One was moved to the bottom. -/
  | toBottom
  deriving DecidableEq, Repr

namespace Bump

/-- Where the entry was moved to. -/
def place? : Bump → Option Place
  | .none => Option.none
  | .toTop => some .prepend
  | .toBottom => some .append

/-- The entry that was moved. -/
def plays {α : Type} (new : List α) : Bump → List α
  | .none => []
  | .toTop => new.head?.toList
  | .toBottom => new.getLast?.toList

/-- **Whether a row of places is the row of all places with one moved to an
end.** -/
def ofPlaces (places : List Nat) : Bump :=
  match places.head?, places.getLast? with
  | some k, some j =>
    let n := places.length
    if 0 < k && places == k :: (List.range n).eraseIdx k then .toTop
    else if j + 1 < n && places == (List.range n).eraseIdx j ++ [j] then .toBottom
    else .none
  | _, _ => .none

/-- **Whether a list of plays is the previous one with one play moved to an
end.** -/
def ofPlays? (prev new : List Play) : Except Fault Bump :=
  if prev.length ≠ new.length ∨ prev.isEmpty then .ok .none
  else do
    let d ← ListDiff.ofPlays? prev new
    if d.outcome ≠ .updated || d.entries.any fun e => e.isAdded || e.isDeleted then .ok .none
    else .ok (ofPlaces d.keptPlaces)

end Bump

end Listening

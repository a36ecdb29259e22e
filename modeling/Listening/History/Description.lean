import Listening.History.ListDiff

/-!
# A difference in words

One line for every play of the new list, which says what became of it, and
one for every play that is gone and whose place no other play has taken.
-/

namespace Listening.ListDiff

/-- The entry for a place in the new list. -/
def atNew? (d : ListDiff) (place : Nat) : Option Entry :=
  d.entries.find? fun e => e.new? == some place

/-- What is said of a play of the new list besides what it is. -/
def remark? (prev : List Play) (d : ListDiff) (place : Nat) : Except Fault String :=
  match d.atNew? place with
  | some (.kept i j) =>
    .ok (if i = j then "" else " => Moved - Originally at " ++ toString (i + 1))
  | some (.added _) =>
    match if d.deletedPlaces.contains place then prev[place]? else none with
    | some old => do .ok (" => Replaced - Original => " ++ (← old.describe?))
    | none => .ok " => Added"
  | _ => .ok ""

/-- The line of a play: its place and what it is. -/
def numbered? (place : Nat) (play : Play) : Except Fault String := do
  .ok (toString (place + 1) ++ ". " ++ (← play.describe?))

/-- The lines of the new list. -/
def newLines? (prev new : List Play) (d : ListDiff) : Except Fault (List String) :=
  new.zipIdx.mapM fun (play, place) => do
    let line ← numbered? place play
    .ok (line ++ (← remark? prev d place))

/-- The lines of the plays that are gone from places past the new list. -/
def goneLines? (prev new : List Play) (d : ListDiff) : Except Fault (List String) :=
  (d.deletedPlaces.filter (new.length ≤ ·)).mapM fun place =>
    match prev[place]? with
    | some play => do .ok ((← numbered? place play) ++ " => Removed")
    | none => .ok ""

/-- **A difference in words**, a line for each play. -/
def describe? (prev new : List Play) (d : ListDiff) : Except Fault String := do
  let lines ← newLines? prev new d
  let gone ← goneLines? prev new d
  .ok (String.intercalate "\n" (lines ++ gone))

end Listening.ListDiff

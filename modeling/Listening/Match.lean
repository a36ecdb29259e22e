import Listening.Match.Content
import Listening.Match.Timing

/-!
# The same listen

Two plays are one listen if they are of one track and their times line up
closely enough. Closely enough is, unless something else is asked for,
exactly or within the threshold.
-/

namespace Listening.Match

/-- The accuracies that make two plays one listen. -/
def acceptable : List Accuracy := [.exact, .close]

/-- Whether an accuracy is one of those accepted. -/
def isAcceptable (found : Accuracy) (expected : List Accuracy := acceptable) : Bool :=
  expected.contains found

/-- **Whether two plays are one listen**, the first one being known
already. -/
def sameListen? (known other : Play) (expected : List Accuracy := acceptable)
    (timing : Timing := {}) : Except Fault Bool := do
  if !(← content? known other) then .ok false
  else
    let found ← compare? known other timing
    .ok (isAcceptable found.accuracy expected)

/-- The last play of a window that is one listen with another. -/
def lastSame? (play : Play) (window : List Play) : Except Fault (Option Play) :=
  go window.reverse
where
  /-- Goes through the window from its end. -/
  go : List Play → Except Fault (Option Play)
    | [] => .ok none
    | known :: rest => do
      if ← sameListen? known play then .ok (some known) else go rest

end Listening.Match

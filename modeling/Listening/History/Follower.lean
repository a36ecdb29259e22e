import Listening.History
import Listening.StateFile

/-!
# Following a list

A `Follower` looks at the list of one source again and again. With a state
file it begins where it left off, and keeps every list it accepts.
-/

namespace Listening

/-- **One who follows the list of a source.** -/
structure Follower where
  /-- What is known of the list. -/
  history : History := {}
  /-- The name of the source. -/
  name : String := "history"
  /-- Where the list is kept. -/
  file : Option StateFile := none

namespace Follower

/-- **Begins to follow a list**, where it was left off if that is known. -/
def start? (history : History) (name : String) (file : Option StateFile) (now : Instant) :
    Except Fault Follower :=
  match file.bind fun f => StateFile.plays? f.document name with
  | some plays@(_ :: _) => do
    let restored := history.restore plays now
    let _ ← restored.result
    .ok ⟨restored.state, name, file⟩
  | _ => .ok ⟨history, name, file⟩

/-- **Looks at the list** and delivers the new listens. A list that was
accepted is kept. -/
def process (plays : List Play) (now : Instant) (f : Follower) : Step Follower (List Play) :=
  ((f.history.evaluate plays now).within fun h => { f with history := h }).andThen
    fun finding f =>
      let f :=
        if finding.accepted then
          { f with file := f.file.map fun s => s.keep f.name plays } else f
      .ok finding.plays f

/-- Writes what is kept by a way to write to a path. -/
def save {ω : Type} (write : Path → String → ω → ω) (f : Follower) (outside : ω) :
    Follower × ω :=
  match f.file with
  | none => (f, outside)
  | some file =>
    let (file, outside) := file.save write outside
    ({ f with file := some file }, outside)

end Follower

end Listening

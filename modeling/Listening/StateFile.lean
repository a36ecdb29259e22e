import Listening.Disk
import Listening.Json.Reader
import Listening.Json.Writer
import Listening.Play.Record

/-!
# The state file

What a source listed last is kept in a file, so that a restart loses
nothing. The file holds one JSON object; under `history` it has for every
source the plays of its list. The rest of the object belongs to others and
is left as it is.

A file that is missing or holds something else is as good as an empty one,
and a list with an unreadable play as good as none.
-/

namespace Listening

/-- **What a state file holds.** -/
abbrev StateFile.Document := List (String × Json)

/-- **A state file**: where it is and what it holds. -/
structure StateFile where
  /-- Where it is. -/
  path : Path
  /-- What it holds, with everything set since it was read. -/
  document : StateFile.Document := []
  /-- Whether what it holds has not been written yet. -/
  unsaved : Bool := false

namespace StateFile

/-- The document a text writes. Numbers of too many digits and lists too
deep are refused; any other text that is no document counts as empty. -/
def ofText? (s : String) : Except Fault Document :=
  match Json.ofText s with
  | .ok (.obj fields) => .ok fields
  | .ok _ => .ok []
  | .error .malformed => .ok []
  | .error .tooManyDigits => .error .tooManyDigits
  | .error .tooDeep => .error .tooDeep

/-- The document a file holds; a file that cannot be read holds none. -/
def ofBytes? : Option ByteArray → Except Fault Document
  | none => .ok []
  | some bytes =>
    match String.fromUTF8? bytes with
    | some s => ofText? s
    | none => .error .notUtf8

/-- A document as text. -/
def text (document : Document) : String := Json.write .file (.obj document)

/-- **Reads a state file.** -/
def open? (path : Path) (content : Option ByteArray) : Except Fault StateFile := do
  .ok { path := path, document := ← ofBytes? content }

/-- The lists of all sources. -/
def histories (document : Document) : Option (List (String × Json)) :=
  match Json.lookup "history" document with
  | some (.obj lists) => some lists
  | _ => none

/-- **The list kept for a source**, if there is one and all of it can be
read. -/
def plays? (document : Document) (source : String) : Option (List Play) := do
  let lists ← histories document
  match Json.lookup source lists with
  | some (.arr records) => (records.mapM Play.ofRecord?).toOption
  | _ => none

/-- A document with the list of a source set. -/
def withPlays (document : Document) (source : String) (plays : List Play) : Document :=
  let lists := (histories document).getD []
  Json.insert "history"
    (.obj (Json.insert source (.arr (plays.map Play.toRecord)) lists)) document

/-- **Keeps the list of a source**, to be written with the next `save`. -/
def keep (f : StateFile) (source : String) (plays : List Play) : StateFile :=
  { f with document := withPlays f.document source plays, unsaved := true }

/-- **Writes what is not yet written** by a way to write to a path. -/
def save {ω : Type} (write : Path → String → ω → ω) (f : StateFile) (outside : ω) :
    StateFile × ω :=
  if f.unsaved then ({ f with unsaved := false }, write f.path (text f.document) outside)
  else (f, outside)

/-- The lists kept after one was set. -/
@[simp] theorem histories_withPlays (document : Document) (source : String) (plays : List Play) :
    histories (withPlays document source plays)
      = some (Json.insert source (.arr (plays.map Play.toRecord))
          ((histories document).getD [])) := by
  simp [histories, withPlays, Json.lookup_insert_self]

/-- The list of one source does not change those of the others. -/
theorem lookup_histories_withPlays_of_ne {source other : String} (h : other ≠ source)
    (document : Document) (plays : List Play) :
    Json.lookup other ((histories (withPlays document source plays)).getD [])
      = Json.lookup other ((histories document).getD []) := by
  simp [Json.lookup_insert_of_ne h]

end StateFile

end Listening

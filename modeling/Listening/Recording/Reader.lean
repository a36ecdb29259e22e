import Listening.Recording
import Listening.Recording.Value

/-!
# Reading recordings

A recording is written as a JSON object: `users` with the looks at the lists
of users, `sonos` with the looks at the speakers, `scrobble_errors` with the
plays that are not taken, by title, and `login_error`. A look is a list, or
says under `error` – for speakers, `discover_error` – why there is none. How
a fault is written is left to whoever reads.
-/

namespace Listening.Recording

variable (fault? : Json → Option Fault)

/-- A track. -/
def trackOf (v : Json) : Service.Track :=
  ⟨part "title" v, part "artist" v, part "album" v, part "timestamp" v⟩

/-- A look at the list of a user. -/
def listOf (v : Json) : Except Fault (List Service.Track) :=
  match fault? (part "error" v) with
  | some e => .error e
  | none => .ok ((itemsIn v).map trackOf)

/-- A speaker at one look. -/
def seenOf (v : Json) : Seen where
  address := (part "ip" v).display
  name := match part "name" v with
    | .null => none
    | name => some name.display
  track := match fault? (part "error" v) with
    | some e => .error e
    | none => .ok (fieldsIn (part "track" v))
  transport := fieldsIn (part "transport" v)

/-- A look at the speakers. -/
def speakersOf (v : Json) : Except Fault (List Seen) :=
  match fault? (part "discover_error" v) with
  | some e => .error e
  | none => .ok ((itemsIn (part "speakers" v)).map (seenOf fault?))

/-- Faults by title. -/
def faultsOf (v : Json) : List (String × Fault) :=
  (fieldsIn v).filterMap fun (title, e) => (fault? e).map fun e => (title, e)

/-- **The recording a JSON value writes.** -/
def ofJson (v : Json) : Recording where
  users := (fieldsIn (part "users" v)).map fun (name, looks) =>
    (name, (itemsIn looks).map (listOf fault?))
  refused := faultsOf fault? (part "scrobble_errors" v)
  noLogin := fault? (part "login_error" v)
  speakers := (itemsIn (part "sonos" v)).map (speakersOf fault?)

end Listening.Recording

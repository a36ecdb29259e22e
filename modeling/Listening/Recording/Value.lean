import Listening.Play

/-!
# Values in recordings

How plays, reports and snapshots stand in a recording: as objects with a
field for everything that is known. A number may be written with or without
a point, and one that has no digits is spelled `inf`, `-inf` or `nan`.
-/

namespace Listening.Recording

/-- A field of a value; nothing, if it has no such field. -/
def part (name : String) : Json → Json
  | .obj fields => (Json.lookup name fields).getD .null
  | _ => .null

/-- The fields of a value, if it is an object. -/
def fieldsIn : Json → List (String × Json)
  | .obj fields => fields
  | _ => []

/-- The items of a value, if it is a list. -/
def itemsIn : Json → List Json
  | .arr items => items
  | _ => []

/-- A text, if a value is one. -/
def text? : Json → Option String
  | .str s => some s
  | _ => none

/-- A truth value; anything else is false. -/
def isTrue : Json → Bool
  | .bool b => b
  | _ => false

/-- **A number of seconds.** -/
def amount : Json → Amount
  | .int n => .seconds (Number.ofInt n)
  | .str "inf" => .seconds Number.infinity
  | .str "-inf" => .seconds (-Number.infinity)
  | .str "nan" => .seconds Number.notANumber
  | v => .ofJson v

/-- A number of seconds, if a value is one. -/
def number? (v : Json) : Option Float :=
  match amount v with
  | .seconds x => some x
  | _ => none

/-- An instant; nothing, if a value is no text. -/
def instant? : Json → Except Fault (Option Instant)
  | .str s => match Instant.ofIso? s with
    | some t => .ok (some t)
    | none => .error .noDate
  | _ => .ok none

/-- An observation, which has to have a time. -/
def observation? (v : Json) : Except Fault Observation := do
  match ← instant? (part "timestamp" v) with
  | some t => .ok ⟨t, number? (part "position" v), number? (part "position_percent" v)⟩
  | none => .error .noDate

/-- A range, which may have no end yet. -/
def range? (drift : Float := defaultDrift) (v : Json) : Except Fault Range := do
  let start ← observation? (part "start" v)
  match part "end" v with
  | .null => .ok (.opened start drift)
  | stop => Range.between? start (← observation? stop) drift

/-- **A play.** -/
def play? (v : Json) : Except Fault Play := do
  let ranges ← match part "listen_ranges" v with
    | .arr items => do .ok (some (← items.mapM range?))
    | _ => .ok none
  let playedAt ← instant? (part "play_date" v)
  .ok
    { title := .ofJson (part "track" v)
      artists := (itemsIn (part "artists" v)).map Label.ofJson
      album := .ofJson (part "album" v)
      duration := amount (part "duration" v)
      playedAt := playedAt
      listenedFor := amount (part "listened_for" v)
      ranges := ranges
      source := .ofJson (part "source" v)
      trackId := .ofJson (part "track_id" v)
      names := fieldsIn (part "brainz" v)
      position := number? (part "position" v)
      device := .ofJson (part "device_id" v)
      user := .ofJson (part "user" v) }

/-- A list of plays. -/
def plays? (v : Json) : Except Fault (List Play) := (itemsIn v).mapM play?

/-- A play, if there is one. -/
def optionalPlay? : Json → Except Fault (Option Play)
  | .null => .ok none
  | v => (play? v).map some

/-- A status, if there is one. -/
def status? : Json → Except Fault (Option Status)
  | .str s => (Status.ofWord? s).map some
  | _ => .ok none

/-- A platform: a device and a user. -/
def platform : Json → Platform
  | .arr [.str device, .str user] => ⟨device, user⟩
  | _ => ⟨Platform.noDevice, Platform.noUser⟩

/-- A report. -/
def report? (v : Json) : Except Fault Report := do
  let status ← status? (part "status" v)
  let play ← optionalPlay? (part "play" v)
  .ok ⟨platform (part "platform" v), status, play, number? (part "position" v)⟩

/-- **A snapshot.** -/
def snapshot? (v : Json) : Except Fault Snapshot := do
  let players ← (itemsIn (part "players" v)).mapM report?
  let history ← match part "history" v with
    | .arr items => do .ok (some (← items.mapM play?))
    | _ => .ok none
  .ok ⟨players, history⟩

end Listening.Recording

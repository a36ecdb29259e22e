import Listening.Instant.Iso
import Listening.Play

/-!
# Plays as records

A play is kept in a file as a JSON object with two parts: `data` says what
was played and when, `meta` where it was seen. The stretches of listening
and the position are not kept.

A record that someone else has written is read as far as it makes sense. Its
artists may also be one text, whose characters are then the artists, and its
further names a list of pairs.
-/

namespace Listening

namespace Json

/-- A field of an object; nothing, if the object does not have it. -/
def field? (name : String) : Json → Except Fault Json
  | .obj fields => .ok ((lookup name fields).getD .null)
  | _ => .error .notRecord

/-- The items of a value: of a list, its items, of a text its characters,
and of an object the names of its fields. -/
def items? : Json → Except Fault (List Json)
  | .arr items => .ok items
  | .str s => .ok (s.toList.map fun c => .str (.singleton c))
  | .obj fields => .ok (fields.map fun p => .str p.1)
  | _ => .error .notList

/-- The items of a value that may be missing. -/
def optionalItems? (v : Json) : Except Fault (List Json) :=
  if v.truthy then v.items? else .ok []

/-- The name of a field that a value makes. A list or an object makes
none. -/
def fieldName? : Json → Except Fault String
  | .str s => .ok s
  | .null => .ok "null"
  | .bool b => .ok (if b then "true" else "false")
  | .int n => .ok (toString n)
  | .float x => .ok (Number.shortest x)
  | _ => .error .notIndexable

/-- A field that a pair of values makes. -/
def pair? (v : Json) : Except Fault (String × Json) := do
  match ← v.items? with
  | [k, v] => .ok (← k.fieldName?, v)
  | _ => .error .notPairs

/-- The fields that a value makes: those of an object, or a list of pairs. -/
def fields? : Json → Except Fault (List (String × Json))
  | .obj fields => .ok fields
  | v => do
    let pairs ← (← v.items?).mapM pair?
    .ok (collect pairs)

/-- The fields of a value that may be missing. -/
def optionalFields? (v : Json) : Except Fault (List (String × Json)) :=
  if v.truthy then v.fields? else .ok []

end Json

namespace Play

/-- The record of what was played and when. -/
def dataRecord (p : Play) : Json :=
  .obj [
    ("track", p.title.toJson),
    ("artists", .arr (p.artists.map Label.toJson)),
    ("album", p.album.toJson),
    ("duration", p.duration.toJson),
    ("play_date", match p.playedAt with
      | some t => .str t.toIso
      | none => .null),
    ("listened_for", p.listenedFor.toJson)]

/-- The record of where a play was seen. -/
def metaRecord (p : Play) : Json :=
  .obj [
    ("source", p.source.toJson),
    ("track_id", p.trackId.toJson),
    ("brainz", .obj p.names),
    ("device_id", p.device.toJson),
    ("user", p.user.toJson)]

/-- **The record of a play.** -/
def toRecord (p : Play) : Json :=
  .obj [("data", p.dataRecord), ("meta", p.metaRecord)]

/-- A time in a record: a text, if there is one. -/
def recordedTime? (v : Json) : Except Fault (Option Instant) :=
  if v.truthy then
    match v with
    | .str s => match Instant.ofIso? s with
      | some t => .ok (some t)
      | none => .error .noDate
    | _ => .error .notText
  else .ok none

/-- **The play of a record.** Only the title has to be there. -/
def ofRecord? (record : Json) : Except Fault Play :=
  match record with
  | .obj parts => do
    let data := (Json.lookup "data" parts).getD (.obj [])
    let seen := (Json.lookup "meta" parts).getD (.obj [])
    let time ← data.field? "play_date"
    let title ← match data with
      | .obj fields => match Json.lookup "track" fields with
        | some v => .ok v
        | none => .error (.noField "track")
      | _ => .error .notRecord
    let artists ← (← data.field? "artists").optionalItems?
    let album ← data.field? "album"
    let duration ← data.field? "duration"
    let playedAt ← recordedTime? time
    let listenedFor ← data.field? "listened_for"
    let source ← seen.field? "source"
    let trackId ← seen.field? "track_id"
    let names ← (← seen.field? "brainz").optionalFields?
    let device ← seen.field? "device_id"
    let user ← seen.field? "user"
    .ok
      { title := .ofJson title
        artists := artists.map Label.ofJson
        album := .ofJson album
        duration := .ofJson duration
        playedAt := playedAt
        listenedFor := .ofJson listenedFor
        source := .ofJson source
        trackId := .ofJson trackId
        names := names
        device := .ofJson device
        user := .ofJson user }
  | _ => .error .notRecord

end Play

end Listening

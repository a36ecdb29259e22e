import Listening.Player.Summary
import Listening.Players

/-!
# Views

A view shows a value as JSON, for whoever watches from outside: every field
is there, `null` where nothing is known. A brief view of a play is its title
and when it was played.
-/

namespace Listening

namespace View

/-- The view of what may be missing. -/
def maybe {α : Type} (view : α → Json) : Option α → Json
  | some a => view a
  | none => .null

/-- The view of a list. -/
def all {α : Type} (view : α → Json) (items : List α) : Json := .arr (items.map view)

/-- The view of a count. -/
def count (n : Nat) : Json := .int n

/-- The view of seconds, which are shown with a point. -/
def seconds : Amount → Json
  | .other (.int n) => .float (Number.ofInt n)
  | amount => amount.toJson

end View

open View

/-- The view of an instant. -/
def Instant.view (t : Instant) : Json := .str t.toIso

/-- The view of an observation. -/
def Observation.view (o : Observation) : Json :=
  .obj [("timestamp", o.time.view), ("position", maybe .float o.position),
    ("position_percent", maybe .float o.percent)]

/-- The view of a range: its two ends. -/
def Range.view (r : Range) : Json := .arr [r.start.view, r.stop.view]

/-- **The view of a play.** -/
def Play.view (p : Play) : Json :=
  .obj [
    ("track", p.title.toJson),
    ("artists", all Label.toJson p.artists),
    ("album", p.album.toJson),
    ("duration", p.duration.toJson),
    ("play_date", maybe Instant.view p.playedAt),
    ("listened_for", seconds p.listenedFor),
    ("listen_ranges", maybe (all Range.view) p.ranges),
    ("source", p.source.toJson),
    ("track_id", p.trackId.toJson),
    ("brainz", .obj p.names),
    ("position", maybe .float p.position),
    ("device_id", p.device.toJson),
    ("user", p.user.toJson)]

/-- **The brief view of a play.** -/
def Play.brief (p : Play) : Json :=
  .obj [("track", p.title.toJson), ("play_date", maybe Instant.view p.playedAt)]

/-- The view of a report. -/
def Report.view (r : Report) : Json :=
  .obj [
    ("platform_id", .arr [.str r.platform.device, .str r.platform.user]),
    ("play", maybe Play.view r.play),
    ("position", maybe .float r.position),
    ("status", maybe (fun s => .str s.word) r.status)]

/-- The view of a snapshot. -/
def Snapshot.view (s : Snapshot) : Json :=
  .obj [("players", all Report.view s.players), ("history", maybe (all Play.view) s.history)]

/-- **The view of a player** at a moment. -/
def Player.view? (p : Player) (now : Instant) : Except Fault Json := do
  let play ← match p.current with
    | some play => play.describe?.map .str
    | none => .ok .null
  .ok (.obj [
    ("status", .str p.status.word),
    ("play", play),
    ("first_seen", maybe Instant.view p.firstSeen),
    ("play_updated", maybe Instant.view p.updated),
    ("state_updated", p.heard.view),
    ("stale_flag", .bool p.isStale),
    ("ranges", all Range.view p.closed),
    ("open_range", maybe Range.view p.opened),
    ("update_stale", .bool (p.isUpdateStale now)),
    ("orphaned", .bool (p.isOrphaned now)),
    ("dead", .bool (p.isDead now)),
    ("listened", .float p.listened),
    ("position", maybe .float p.position),
    ("summary", .str (← p.summary? now))])

/-- The view of a row of the table of players. -/
def Players.Row.view (r : Row) : Json :=
  .obj [
    ("player", .str r.name),
    ("track", maybe .str r.track),
    ("status", maybe .str r.status),
    ("position", r.position.toJson),
    ("duration", r.duration.toJson),
    ("listened", r.listened.toJson)]

/-- **The view of all players**, as they are shown to the user. -/
def Players.view? (ps : Players) (names : List (String × String) := []) : Except Fault Json := do
  .ok (.obj ((← ps.rows? names).map fun (key, r) => (key, r.view)))

end Listening

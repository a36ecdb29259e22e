import Listening.Player.Summary

/-!
# The players of a source

A source that sees players reports all of them at every look. `Players`
keeps one `Player` for each platform, hands every report to its own, and
looks after those that were not reported: a player that is gone for good is
removed, and what it played until then counts.

A play is a candidate once it was listened to for long enough. It is one
again at every later look, until it ends.
-/

namespace Listening

/-- **The players of a source**, by platform, in the order in which they were
first seen. -/
structure Players where
  /-- From when on a play counts. -/
  listened : Threshold.Listened := {}
  /-- The limits new players go by. -/
  limits : Player.Limits := {}
  /-- The players. -/
  players : List (String × Player) := []

namespace Players

/-- A player by platform. -/
def player? (ps : Players) (name : String) : Option Player := ps.players.lookup name

/-- The player of a platform; a new one, if there is none yet. -/
def playerFor (ps : Players) (platform : Platform) (now : Instant) : Player :=
  (ps.player? platform.name).getD (.fresh platform ps.limits now)

/-- The same players with one of them changed. -/
def put (name : String) (ps : Players) (p : Player) : Players :=
  { ps with players := Entries.put name p ps.players }

/-- The same players without one. -/
def remove (name : String) (ps : Players) : Players :=
  { ps with players := ps.players.filter (·.1 != name) }

/-- **Whether a play was listened to for long enough.** -/
def passes? (ps : Players) (play : Play) : Except Fault Bool := do
  let elapsed := (← play.listenedFor.counted?).getD 0
  let verdict ← Threshold.check? ps.listened elapsed play.duration
  let _ ← play.describe?
  .ok verdict.passes

/-- The play if it was listened to for long enough. -/
def candidate? (ps : Players) : Option Play → Except Fault (Option Play)
  | none => .ok none
  | some play => do .ok (if ← ps.passes? play then some play else none)

/-- The play of a report, with the position of the report if it has none of
its own. -/
def positioned (r : Report) : Option Play :=
  r.play.map fun play => { play with position := play.position <|> r.position }

/-- Hands a report to its player and delivers the candidate it makes: the
play that ended, or else the one that goes on. -/
def take (now : Instant) (report : Report) (ps : Players) : Step Players (Option Play) :=
  let name := report.platform.name
  let player := ps.playerFor report.platform now
  ((player.report report.status (positioned report) now).within (ps.put name)).andThen
    fun update ps =>
      Step.of (ps.candidate? (update.finished <|> update.soFar)) ps

/-- Looks after a player that was not reported. -/
def tend (now : Instant) (name : String) (ps : Players) : Step Players (Option Play) :=
  match ps.player? name with
  | none => .ok none ps
  | some player =>
    if player.isDead now then
      (player.closeRange.within (ps.put name)).andThen fun _ ps =>
        let played := (ps.player? name).bind Player.played
        (Step.of (ps.candidate? played) ps).andThen fun candidate ps =>
          .ok candidate (ps.remove name)
    else ((player.checkStale now).within (ps.put name)).andThen fun _ ps => .ok none ps

/-- **Takes in all that a source reports at one look**, and delivers the
candidates. -/
def process (reports : List Report) (now : Instant) (ps : Players) : Step Players (List Play) :=
  (Step.forEach (take now) reports ps).andThen fun reported ps =>
    let names := reports.map fun r => r.platform.name
    let silent := (ps.players.map (·.1)).filter fun name => !names.contains name
    (Step.forEach (tend now) silent ps).andThen fun tended ps =>
      .ok ((reported ++ tended).filterMap id) ps

/-! ## What the players show -/

/-- **A player as it is shown to the user.** -/
structure Row where
  /-- Its name. -/
  name : String
  /-- The track. -/
  track : Option String
  /-- What it is doing. -/
  status : Option String
  /-- The position. -/
  position : Amount
  /-- The length of the track. -/
  duration : Amount
  /-- How long it was listened to. -/
  listened : Amount := .absent

/-- A player as it is shown, under the name of its device if that has one. -/
def row? (names : List (String × String)) (key : String) (p : Player) : Except Fault Row := do
  let track ← match p.current with
    | some play => do .ok (some (← play.describe?))
    | none => .ok none
  .ok
    { name := (names.lookup p.platform.device).getD key
      track := track
      status := some p.status.word
      position := .ofSeconds? p.position
      duration := match p.current with
        | some play => play.duration
        | none => .absent
      listened := .ofSeconds? (p.current.map fun _ => p.listened) }

/-- **All players as they are shown**, by platform. -/
def rows? (ps : Players) (names : List (String × String) := []) :
    Except Fault (List (String × Row)) :=
  ps.players.mapM fun (key, p) => do .ok (key, ← row? names key p)

end Players

end Listening

import Listening.Notice
import Listening.Player
import Listening.Poller.Pace
import Listening.Service.Account
import Listening.Settings.Bounded
import Listening.Speaker.Finder

/-!
# Settings

All that whoever runs the program can set is read from its environment, once
and at the beginning: either every variable makes sense, or the first that
does not is named. Access to the listening service can be asked for; it is
looked at before anything else.
-/

namespace Listening

/-- **What can be set.** -/
structure Settings where
  /-- The user to whom plays are submitted. -/
  user : Option String
  /-- The password of that user. -/
  password : Option String
  /-- A session of that user. -/
  session : Option String
  /-- The key of the program. -/
  key : Option String
  /-- The secret of the program. -/
  secret : Option String
  /-- The user whose list is watched. -/
  watched : Option String
  /-- How often sources are polled, and how patiently. -/
  pace : Pace
  /-- Seconds between two discoveries of speakers. -/
  discovery : Float
  /-- From when on a play counts. -/
  listened : Threshold.Listened
  /-- The limits players go by. -/
  limits : Player.Limits
  /-- Where notices are sent. -/
  webhook : Option String
  /-- The least level of a notice that is sent. -/
  noticeLevel : String
  /-- Where files are kept. -/
  directory : Path

namespace Settings

/-! ## What access needs -/

/-- The variables that access to the service needs in any case. -/
def accessVariables : List String := ["LASTFM_USERNAME", "LASTFM_API_KEY", "LASTFM_API_SECRET"]

/-- **The variables that access to the service lacks.** A session stands for
a password. -/
def missing (env : Environment) : List String :=
  let lacks (name : String) : Bool := (env.given? name).isNone
  accessVariables.filter lacks ++
    if lacks "LASTFM_PASSWORD" && lacks "LASTFM_SESSION_KEY" then ["LASTFM_PASSWORD"] else []

/-- Accepts an environment that lacks nothing that access needs. -/
def checkAccess? (env : Environment) : Except Fault Unit :=
  if (missing env).isEmpty then .ok ()
  else
    .error (.setting ("Missing required environment variables: "
      ++ String.intercalate ", " (missing env) ++ "\nPlease set them in your .env file"))

/-! ## Numbers -/

/-- Seconds between two polls. -/
def interval : Bounded := ⟨"POLL_INTERVAL", ({} : Pace).interval, 0.1, none⟩

/-- Seconds between two discoveries of speakers. -/
def discoveryInterval : Bounded :=
  ⟨"SPEAKER_REDISCOVERY_INTERVAL", ({} : Speaker.Finder).interval, 1, none⟩

/-- How many failures in a row are allowed; the whole part counts. -/
def retries : Bounded := ⟨"MAX_POLL_RETRIES", 5, 0, none⟩

/-- Seconds of listening after which a play counts. -/
def listenedDuration : Bounded :=
  ⟨"SCROBBLE_THRESHOLD_DURATION", Threshold.listenedAbsolute, 0, none⟩

/-- Percent of the track after which a play counts. -/
def listenedPercent : Bounded := .percent "SCROBBLE_THRESHOLD_PERCENT" Threshold.listenedPercent

/-- Seconds within which a position is close to an end. -/
def closeAbsolute : Bounded := ⟨"CLOSE_POSITION_ABSOLUTE", Threshold.closeAbsolute, 0, none⟩

/-- Percent of the track within which a position is close to an end. -/
def closePercent : Bounded := .percent "CLOSE_POSITION_PERCENT" Threshold.closePercent

/-- Seconds after which a repeat counts. -/
def repeatAbsolute : Bounded := ⟨"REPEAT_DURATION_ABSOLUTE", Threshold.repeatAbsolute, 0, none⟩

/-- Percent of the track after which a repeat counts. -/
def repeatPercent : Bounded := .percent "REPEAT_DURATION_PERCENT" Threshold.repeatPercent

/-- How far a position may run ahead of real time. -/
def drift : Bounded := ⟨"ALLOWED_DRIFT", defaultDrift, 0, none⟩

/-- After how many seconds a stretch is closed for want of news. -/
def stale : Bounded := ⟨"PLAYER_STALE_INTERVAL", ({} : Player.Limits).stale, 1, none⟩

/-- After how many seconds a player counts as gone. -/
def orphaned : Bounded := ⟨"PLAYER_ORPHANED_INTERVAL", ({} : Player.Limits).orphaned, 1, none⟩

/-! ## Reading -/

/-- The least level of a notice that is sent. -/
def noticeLevel? (env : Environment) : Except Fault String :=
  let level := Text.uppercase ((env.given? "NOTIFY_MIN_LEVEL").getD Notice.defaultLevel)
  let levels := Notice.levels.map (·.1)
  if levels.contains level then .ok level
  else
    .error (.setting ("NOTIFY_MIN_LEVEL must be one of " ++ String.intercalate ", " levels
      ++ ", got " ++ Text.quoted level))

/-- Where files are kept, unless told otherwise. -/
def defaultDirectory : String := "./data"

/-- **The settings that an environment holds**, with access to the service if
that is asked for. -/
def ofEnvironment? (env : Environment) (needsAccess : Bool := true) : Except Fault Settings := do
  if needsAccess then checkAccess? env
  let noticeLevel ← noticeLevel? env
  let interval ← interval.read? env
  let discovery ← discoveryInterval.read? env
  let retries ← Amount.wholeOf? (← retries.read? env)
  let listenedDuration ← listenedDuration.read? env
  let listenedPercent ← listenedPercent.read? env
  let closeAbsolute ← closeAbsolute.read? env
  let closePercent ← closePercent.read? env
  let repeatAbsolute ← repeatAbsolute.read? env
  let repeatPercent ← repeatPercent.read? env
  let drift ← drift.read? env
  let stale ← stale.read? env
  let orphaned ← orphaned.read? env
  .ok
    { user := env.get? "LASTFM_USERNAME"
      password := env.get? "LASTFM_PASSWORD"
      session := env.get? "LASTFM_SESSION_KEY"
      key := env.get? "LASTFM_API_KEY"
      secret := env.get? "LASTFM_API_SECRET"
      watched := env.given? "LASTFM_HISTORY_USERNAME"
      pace := { interval := interval, retries := retries }
      discovery := discovery
      listened := ⟨some listenedDuration, some listenedPercent⟩
      limits := ⟨stale, orphaned, drift,
        ⟨closeAbsolute, closePercent, repeatAbsolute, repeatPercent⟩⟩
      webhook := env.given? "NOTIFY_WEBHOOK_URL"
      noticeLevel := noticeLevel
      directory := .ofText ((env.given? "DATA_DIR").getD defaultDirectory) }

/-! ## Writing -/

/-- **Settings by the names of their variables.** -/
def fields (s : Settings) : List (String × Json) :=
  let text : Option String → Json := fun t => (t.map Json.str).getD .null
  let number : Option Float → Json := fun x => (x.map Json.float).getD .null
  [("LASTFM_USERNAME", text s.user), ("LASTFM_PASSWORD", text s.password),
    ("LASTFM_SESSION_KEY", text s.session), ("LASTFM_API_KEY", text s.key),
    ("LASTFM_API_SECRET", text s.secret), ("LASTFM_HISTORY_USERNAME", text s.watched),
    (interval.name, .float s.pace.interval), (discoveryInterval.name, .float s.discovery),
    (retries.name, .int s.pace.retries), (listenedDuration.name, number s.listened.duration),
    (listenedPercent.name, number s.listened.percent),
    (closeAbsolute.name, .float s.limits.positions.closeAbsolute),
    (closePercent.name, .float s.limits.positions.closePercent),
    (repeatAbsolute.name, .float s.limits.positions.repeatAbsolute),
    (repeatPercent.name, .float s.limits.positions.repeatPercent),
    (drift.name, .float s.limits.drift), (stale.name, .float s.limits.stale),
    (orphaned.name, .float s.limits.orphaned), ("NOTIFY_WEBHOOK_URL", text s.webhook),
    ("NOTIFY_MIN_LEVEL", .str s.noticeLevel), ("DATA_DIR", .str s.directory.toText)]

/-- The variables that hold settings. -/
def names : List String :=
  ["LASTFM_USERNAME", "LASTFM_PASSWORD", "LASTFM_SESSION_KEY", "LASTFM_API_KEY",
    "LASTFM_API_SECRET", "LASTFM_HISTORY_USERNAME", interval.name, discoveryInterval.name,
    retries.name, listenedDuration.name, listenedPercent.name, closeAbsolute.name,
    closePercent.name, repeatAbsolute.name, repeatPercent.name, drift.name, stale.name,
    orphaned.name, "NOTIFY_WEBHOOK_URL", "NOTIFY_MIN_LEVEL", "DATA_DIR"]

/-! ## What settings mean -/

/-- The account to which plays are submitted. -/
def account (s : Settings) : Service.Account := { user := s.user }

/-- What the service is shown, if that is enough. -/
def access? (s : Settings) : Except Fault Service.Access := do
  .ok ⟨s.key.getD "", s.secret.getD "", ← Service.Login.of? s.user s.password s.session⟩

/-- **Whether the list that is watched is that of another account** than the
one to which plays are submitted. -/
def watchesAnother (s : Settings) : Bool :=
  match s.watched with
  | none => false
  | some watched => Text.lowercase watched != Text.lowercase (s.user.getD "")

end Settings

end Listening

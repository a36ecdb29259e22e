import Listening.Command
import Listening.Console.Recent
import Listening.Watch

/-!
# The program

What the program does for each command, on a host on which the listening
service and the speakers can be asked. A setting that makes no sense, a
service that opens no session or gives no list end the program with a
message; whatever else goes wrong is a fault of the program.

Sources are watched one after the other. A fault in one does not end the
watch over the other.
-/

namespace Listening

/-- **How the program ends.** -/
inductive Exit where
  /-- All went well. -/
  | done
  /-- An explanation was asked for. -/
  | explained
  /-- Something was said about what went wrong. -/
  | failed
  /-- The command line makes no sense. -/
  | misused
  deriving DecidableEq, Repr

/-- What the caller of the program sees of an end. -/
def Exit.code : Exit → Nat
  | .done => 0
  | .explained => 0
  | .failed => 1
  | .misused => 2

namespace Program

variable {ω : Type} [Host ω] [Service ω] [Speakers ω]

/-! ## Ends -/

/-- Ends with a last output. -/
def endWith (exit : Exit) (line : Console.Line) (w : ω) : Step ω Exit :=
  (Host.say line w).andThen fun _ w => .ok exit w

/-- Says what went wrong. -/
def complain (reason : String) : ω → Step ω Exit :=
  endWith .failed (.text (Console.styled "red" "Error:" ++ " " ++ reason))

/-- Says what went wrong after an empty line. -/
def complainApart (reason : String) : ω → Step ω Exit :=
  endWith .failed (.text ("\n" ++ Console.styled "red" "Error:" ++ " " ++ reason))

/-- Goes on with the settings of an environment. -/
def withSettings (env : Environment) (act : Settings → ω → Step ω Exit) (w : ω) :
    Step ω Exit :=
  match Settings.ofEnvironment? env with
  | .ok s => act s w
  | .error e => if e.nature.isValue then complainApart e.text w else .fail e w

/-- Whether a fault means that the service opens no session. -/
def isLoginFailure (e : Fault) : Bool := e.nature.isService || e.nature.isValue

/-- Goes on once the service has opened a session. -/
def withSession (s : Settings) (act : ω → Step ω Exit) (w : ω) : Step ω Exit :=
  let tried := (Step.of s.access? w).andThen Service.login
  match tried.result with
  | .ok () => act tried.state
  | .error e =>
    if isLoginFailure e then
      complain ("Failed to initialize Last.fm network: " ++ e.text) tried.state
    else .fail e tried.state

/-! ## Watching -/

/-- Watches the list of the service, if that is asked for. -/
def watchList (asked : Bool) (s : Settings) (clients : List (Client ω))
    (d : Dispatcher ω) : Step (Dispatcher ω) (Option (Watch Service.Listing ω)) :=
  if asked then
    let content := Host.load (Watch.filePath s) d.host
    Step.of ((Watch.list? s clients content (Host.now d.host)).map some) d
  else .ok none d

/-- Watches sources with an account to which plays are submitted. -/
def watchAll (speakers list : Bool) (fuel : Nat) (s : Settings) (w : ω) : Step ω Exit :=
  let clients : List (Client ω) := [s.account.client]
  match Dispatcher.ofClients? clients Dispatcher.defaultSize w with
  | .error e => .fail e w
  | .ok d =>
    Step.within
      ((Dispatcher.prime clients d).andThen fun _ d =>
        (watchList list s clients d).andThen fun listWatch d =>
          let d := if speakers then (Watch.speakers s clients).run fuel d else d
          .ok .done (match listWatch with
            | some watch => watch.run fuel d
            | none => d))
      Dispatcher.host

/-- **Watches sources**, for so many polls of each at most. -/
def watch (speakers list : Bool) (fuel : Nat) (env : Environment) : ω → Step ω Exit :=
  withSettings env fun s w =>
    if !speakers && !list then complain "Enable at least one source" w
    else if list && !s.watchesAnother then
      complain ("--lastfm-history must read a different account than the one scrobbled to, " ++
        "set --history-user") w
    else withSession s (watchAll speakers list fuel s) w

/-! ## Showing -/

/-- Shows what was played lately, if there is anything. -/
def showRecent (plays : List Play) (w : ω) : Step ω Exit :=
  if plays.isEmpty then
    endWith .done (.text (Console.styled "yellow" "No recent tracks found.")) w
  else (Step.of (Console.recentTable? plays) w).andThen (endWith .done)

/-- **Lists what was played lately.** -/
def recent (limit : Int) (env : Environment) : ω → Step ω Exit :=
  withSettings env fun s w =>
    (Host.say (.busy "Connecting to Last.fm...") w).andThen fun _ =>
      withSession s fun w =>
        (Host.say (.busy ("Fetching last " ++ toString limit ++ " tracks...")) w).andThen
          fun _ w =>
            let asked := s.account.recent limit w
            match asked.result with
            | .ok plays => showRecent plays asked.state
            | .error e =>
              if e.nature = .client then
                complainApart ("Last.fm API error: " ++ e.text) asked.state
              else .fail e asked.state

/-- A speaker as it is shown right now. -/
def rowNow? (names : List (String × String)) (r : Report) : Except Fault Players.Row := do
  let track ← match r.play with
    | none => .ok none
    | some play => do .ok (some ((← play.credit?) ++ " - " ++ play.title.display))
  .ok
    { name := (names.lookup r.platform.device).getD r.platform.device
      track := track
      status := r.status.map Status.word
      position := .ofSeconds? r.position
      duration := (r.play.map Play.duration).getD .absent }

/-- The speakers as they are shown right now; of two reports of one speaker
the later one counts. -/
def rowsNow? (names : List (String × String)) (reports : List Report) :
    Except Fault (List Players.Row) := do
  let rows ← reports.mapM fun r => do .ok (r.platform.device, ← rowNow? names r)
  .ok ((Entries.putAll rows []).map (·.2))

/-- **Shows what the speakers play.** -/
def players (w : ω) : Step ω Exit :=
  let looked := Speaker.Finder.fetch {} w
  let (finder, w) := looked.state
  (Step.of looked.result w).andThen fun snapshot w =>
    (Step.of (rowsNow? finder.names snapshot.players) w).andThen fun rows w =>
      if rows.isEmpty then
        endWith .done (.text (Console.styled "yellow" "No Sonos speakers found.")) w
      else (Step.of (Console.playersTable? rows) w).andThen (endWith .done)

/-! ## Running -/

/-- Does what a command asks for. -/
def perform (c : Command) (fuel : Nat) (env : Environment) : ω → Step ω Exit :=
  match c with
  | .help => fun w => .ok .explained w
  | .watch speakers list env => watch speakers list fuel env
  | .recent limit => recent limit env
  | .players => players

/-- **Runs the program**, for so many polls of each source at most. -/
def run (words : List String) (env : Environment) (fuel : Nat) (w : ω) : Step ω Exit :=
  match Command.ofWords? words env with
  | .ok c => perform c fuel env w
  | .error _ => .ok .misused w

end Program

end Listening

import Listening.CommandLine
import Listening.Number.Decimal
import Listening.Number.Numeral

/-!
# Commands

What the program can be asked for on its command line: to watch sources, to
list what was played lately, or to show what the speakers play. Options that
set something are written into the environment from which the settings are
read.
-/

namespace Listening

open CommandLine (ValueOption Misuse Reading Usage)

/-- **What the program is asked for.** -/
inductive Command where
  /-- To explain itself. -/
  | help
  /-- To watch sources: the speakers, a list, or both. -/
  | watch (speakers list : Bool) (environment : Environment)
  /-- To list what was played lately, up to a count. -/
  | recent (limit : Int)
  /-- To show what the speakers play. -/
  | players

namespace Command

/-! ## Options -/

/-- A number that a text writes, if it is neither below nor above the
bounds. -/
def number? (least most : Option Float) (s : String) : Option Float :=
  (Number.number? s).filter fun x =>
    !(least.any fun bound => decide (x < bound)) && !(most.any fun bound => decide (bound < x))

/-- A whole number that a text writes, if it is within the bounds. -/
def whole? (least most : Int) (s : String) : Option Int :=
  (Number.wholeNumber? s).filter fun n => decide (least ≤ n ∧ n ≤ most)

/-- The options of `watch` that set a text. -/
def texts : List (ValueOption String) :=
  [⟨"--username", some "-u", some "LASTFM_USERNAME", some⟩,
    ⟨"--password", some "-p", some "LASTFM_PASSWORD", some⟩,
    ⟨"--api-key", some "-k", some "LASTFM_API_KEY", some⟩,
    ⟨"--api-secret", some "-s", some "LASTFM_API_SECRET", some⟩,
    ⟨"--history-user", none, some "LASTFM_HISTORY_USERNAME", some⟩]

/-- The options of `watch` that set a number. -/
def numbers : List (ValueOption Float) :=
  [⟨"--interval", some "-i", some "POLL_INTERVAL", number? none none⟩,
    ⟨"--rediscovery", some "-r", some "SPEAKER_REDISCOVERY_INTERVAL", number? none none⟩,
    ⟨"--threshold", some "-t", some "SCROBBLE_THRESHOLD_PERCENT", number? (some 0) (some 100)⟩,
    ⟨"--threshold-duration", some "-d", some "SCROBBLE_THRESHOLD_DURATION",
      number? (some 0) none⟩]

/-- The option of `recent`: how many plays are listed. -/
def limit : ValueOption Int := ⟨"--limit", some "-n", none, whole? 1 50⟩

/-- How many plays are listed, unless told otherwise. -/
def defaultLimit : Int := 10

/-- The option that has more written to the log. -/
def debugging : String × String × Bool := ("--debug", "--debug", true)

/-- The options of `watch`. -/
def watchUsage : Usage where
  switches :=
    [("--sonos", "--sonos", true), ("--no-sonos", "--sonos", false),
      ("--lastfm-history", "--lastfm-history", true),
      ("--no-lastfm-history", "--lastfm-history", false), debugging]
  fields := texts.flatMap ValueOption.spellings ++ numbers.flatMap ValueOption.spellings

/-- The options of `recent`. -/
def recentUsage : Usage where
  fields := limit.spellings

/-- The options of `players`. -/
def playersUsage : Usage where
  switches := [debugging]

/-! ## Reading -/

/-- What an option sets its variable to. -/
def change? {α : Type} (r : Reading) (env : Environment) (write : α → String)
    (f : ValueOption α) : Except Misuse (List (String × String)) := do
  .ok (match f.inherited, ← r.value? env f with
    | some name, some a => [(name, write a)]
    | _, _ => [])

/-- The environment as the options of `watch` set it. -/
def environment? (r : Reading) (env : Environment) : Except Misuse Environment := do
  let texts ← texts.mapM (change? r env id)
  let numbers ← numbers.mapM (change? r env Number.shortest)
  .ok (env.setAll (texts ++ numbers).flatten)

/-- Reads the words of a command. A wish for help comes before all values,
and values come before words that are left over. -/
def ofOptions? (u : Usage) (words : List String) (make : Reading → Except Misuse Command) :
    Except Misuse Command := do
  let r ← CommandLine.read? u false words
  if r.asksForHelp then .ok .help
  else
    let command ← make r
    match r.words with
    | [] => .ok command
    | word :: _ => .error (.leftOver word)

/-- **Reads a command line.** -/
def ofWords? (words : List String) (env : Environment) : Except Misuse Command := do
  let r ← CommandLine.read? {} true words
  if r.asksForHelp then .ok .help
  else
    match r.words with
    | "run" :: words => ofOptions? watchUsage words fun r => do
      .ok (.watch ((r.switched? "--sonos").getD true)
        ((r.switched? "--lastfm-history").getD false)
        (← environment? r env))
    | "recent" :: words => ofOptions? recentUsage words fun r => do
      .ok (.recent ((← r.value? env limit).getD defaultLimit))
    | "players" :: words => ofOptions? playersUsage words fun _ => .ok .players
    | word :: _ => .error (.unknownCommand word)
    | [] => .error .noCommand

/-! ## Explaining -/

/-- **What the program explains about itself.** -/
def explanation : List String :=
  ["Discover plays from your music sources and scrobble them", "", "Commands:",
    "  run      Start watching sources and scrobbling to Last.fm",
    "  recent   Show recently scrobbled tracks",
    "  players  Show what every Sonos speaker is playing right now", "", "Options of run:",
    "  --sonos/--no-sonos                    Watch Sonos speakers",
    "  --lastfm-history/--no-lastfm-history  Watch Last.fm recently played history",
    "  --history-user USER, -u USER, -p PASSWORD, -k KEY, -s SECRET",
    "  -i SECONDS, -r SECONDS, -t PERCENT, -d SECONDS, --debug", "",
    "Options of recent:", "  -n COUNT", "Options of players:", "  --debug"]

end Command

end Listening

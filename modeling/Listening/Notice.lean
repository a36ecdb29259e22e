import Listening.Fault
import Listening.Text.Blank
import Listening.Text.Case

/-!
# Notices

When something goes wrong for good, whoever runs the program is told by a
`Notice`: into the log, or by a request to a webhook. A webhook has a least
level, below which nothing is sent, and a request that fails is forgotten –
but not another kind of fault.

The levels of the log itself are here as well.
-/

namespace Listening

/-- **What whoever runs the program is told.** -/
structure Notice where
  /-- How bad it is. -/
  level : String
  /-- What it is about. -/
  title : String
  /-- What has happened. -/
  message : String
  /-- More about it. -/
  extra : List (String × Json) := []

namespace Notice

/-- The levels a notice may have, from the least. -/
def levels : List (String × Nat) :=
  [("DEBUG", 10), ("INFO", 20), ("WARNING", 30), ("ERROR", 40), ("CRITICAL", 50)]

/-- The level of a warning. -/
def warning : Nat := 30

/-- How bad a level is. An unknown one is a warning. -/
def levelValue (level : String) : Nat := (levels.lookup (Text.uppercase level)).getD warning

/-- The level below which nothing is sent, unless another one is set. -/
def defaultLevel : String := "WARNING"

/-- How bad a notice is. -/
def value (n : Notice) : Nat := levelValue n.level

/-- A notice as a record of the log: its level, and what is logged. -/
def logged (n : Notice) : Nat × List Json :=
  (n.value, [.str n.title, .str n.message, .obj n.extra])

/-- **A request to a webhook.** -/
structure Request where
  /-- Where it goes. -/
  url : String
  /-- What it says. -/
  body : Json
  /-- After how many seconds it is given up. -/
  timeout : Float

/-- **A webhook.** -/
structure Webhook where
  /-- Where requests go. -/
  url : String
  /-- The least level. -/
  least : Nat := warning
  /-- What stands before every title. -/
  tag : String := "scrobble-sync"

namespace Webhook

/-- A webhook of these settings. -/
def of (url : String) (level : String := defaultLevel) (tag : String := "scrobble-sync") :
    Webhook :=
  ⟨Text.strip url, levelValue level, tag⟩

/-- What a notice says to a webhook. -/
def body (w : Webhook) (n : Notice) : Json :=
  .obj [
    ("level", .str (Text.uppercase n.level)),
    ("title", .str (w.tag ++ ": " ++ n.title)),
    ("message", .str n.message),
    ("extra", .obj n.extra)]

/-- The request for a notice, if it is bad enough. -/
def request? (w : Webhook) (n : Notice) : Option Request :=
  if n.value < w.least then none else some ⟨w.url, w.body n, 5⟩

/-- What remains of the outcome of a request: a failed request is
forgotten. -/
def settled (outcome : Except Fault Unit) : Except Fault Unit :=
  match outcome with
  | .error e => if e.nature = .request then .ok () else .error e
  | .ok () => .ok ()

end Webhook

/-- **Where notices go.** -/
inductive Channel where
  /-- Into the log. -/
  | log
  /-- To a webhook. -/
  | webhook (w : Webhook)

/-- The channel that settings ask for. -/
def Channel.ofSettings (settings : List (String × Json)) : Channel :=
  let setting (name : String) := (Json.lookup name settings).getD .null
  let url := setting "NOTIFY_WEBHOOK_URL"
  let level := setting "NOTIFY_MIN_LEVEL"
  if url.truthy then
    .webhook (.of url.display (if level.truthy then level.display else defaultLevel))
  else .log

end Notice

/-! ## The log -/

/-- **The setting of a part of the log.** -/
structure LogSetting where
  /-- Which part. -/
  name : String
  /-- The least level. -/
  level : Nat
  /-- Whether it is also part of the whole log. -/
  propagates : Bool
  deriving DecidableEq, Repr

namespace LogSetting

/-- The levels of the log. -/
def levels : List (String × Nat) :=
  [("CRITICAL", 50), ("FATAL", 50), ("ERROR", 40), ("WARNING", 30), ("WARN", 30), ("INFO", 20),
    ("DEBUG", 10), ("NOTSET", 0)]

/-- The least level of the log; an unknown one is that of information. -/
def root (level : String) : Nat := (levels.lookup (Text.uppercase level)).getD 20

/-- The parts that would say too much. -/
def quieted : List LogSetting :=
  [⟨"soco", 20, true⟩, ⟨"pylast", 30, false⟩, ⟨"httpx", 30, false⟩]

end LogSetting

end Listening

import Listening.Service
import Listening.Speaker

/-!
# Recordings

A `Recording` holds what the outside answered: the listening service and the
speakers, look by look; the last look repeats. An `Outside` plays it back. It
is a host, it can be asked like the service and like the speakers, and it
keeps what was said, noted, written, asked and submitted.

Each wait moves the clock by what was waited for and goes on to the next
look. After a given number of waits all is to stop.
-/

namespace Listening

/-- **A speaker at one look.** -/
structure Recording.Seen where
  /-- Its address. -/
  address : String
  /-- What it is called, if not by its address. -/
  name : Option String := none
  /-- What it tells about its track, if it can be read. -/
  track : Except Fault (List (String × Json)) := .ok []
  /-- What it tells about its transport. -/
  transport : List (String × Json) := []

/-- **What the outside answered.** -/
structure Recording where
  /-- The lists of the users of the service, look by look; the name of the
  one logged in is empty. -/
  users : List (String × List (Except Fault (List Service.Track))) := []
  /-- The plays the service does not take, by title. -/
  refused : List (String × Fault) := []
  /-- Why the service does not open a session, if it does not. -/
  noLogin : Option Fault := none
  /-- The speakers, look by look. -/
  speakers : List (Except Fault (List Recording.Seen)) := []

namespace Recording

/-- What is found at a look; the last one repeats. -/
def atLook {α : Type} (looks : List α) (n : Nat) : Option α := looks[n]? <|> looks.getLast?

/-- Why a play is not taken, if it is not: the refusals are by title, and only
a title that is a text has one. -/
def refusal? (refused : List (String × Fault)) : Label → Option Fault
  | .text title => refused.lookup title
  | _ => none

/-- The speakers seen at a look. -/
def seen (r : Recording) (n : Nat) : Except Fault (List Seen) :=
  (atLook r.speakers n).getD (.ok [])

/-- The speaker at an address, at a look. -/
def seenAt? (r : Recording) (n : Nat) (address : String) : Option Seen :=
  match r.seen n with
  | .ok speakers => speakers.find? (·.address == address)
  | .error _ => none

/-- What is told of a speaker that is not there. -/
def gone : Fault := .outside { nature := .system, name := "OSError", message := "" }

/-- What is told of a user whom the service does not know. -/
def noUser : Fault :=
  .outside
    { nature := .answer, name := "WSError", message := "User not found", status := .str "6" }

/-- The first tracks of a list up to a count; a negative count leaves out so
many at the end. -/
def cut (limit : Int) (tracks : List Service.Track) : List Service.Track :=
  if 0 ≤ limit then tracks.take limit.toNat else tracks.take (tracks.length - (-limit).toNat)

end Recording

/-- **What the service was asked.** -/
inductive Outside.Request where
  /-- For a user. -/
  | user (name : String)
  /-- For so many plays. -/
  | plays (limit : Int)
  deriving DecidableEq, Repr

/-- **A client that is played back.** -/
structure Outside.Taker where
  /-- The plays it already has. -/
  recent : Except Fault (List Play) := .ok []
  /-- Why it takes no play, if it takes none. -/
  closed : Option Fault := none
  /-- The plays it does not take, by title. -/
  refused : List (String × Fault) := []
  /-- The plays it has taken. -/
  taken : List Play := []

/-- **The outside, played back.** -/
structure Outside where
  /-- What it answers. -/
  recording : Recording := {}
  /-- What the clock shows. -/
  clock : Instant
  /-- The number of the look. -/
  look : Nat := 0
  /-- After how many waits all is to stop. -/
  last : Option Nat := none
  /-- Whether all is to stop. -/
  stopping : Bool := false
  /-- What was put on the console. -/
  printed : List Console.Line := []
  /-- What whoever runs the program was told. -/
  notices : List Notice := []
  /-- How long was waited. -/
  waits : List Float := []
  /-- The files. -/
  disk : Disk := {}
  /-- The sessions opened. -/
  opened : List Service.Access := []
  /-- What the service was asked. -/
  requests : List Outside.Request := []
  /-- What was submitted. -/
  submitted : List Service.Submission := []
  /-- The clients other than the service. -/
  takers : List Outside.Taker := []
  /-- What was delivered, batch by batch. -/
  delivered : List (List Play) := []
  /-- How many polls went well. -/
  rounds : Nat := 0

namespace Outside

/-- Moves the clock. -/
def moveClock (seconds : Float) (w : Outside) : Step Outside Unit :=
  match Instant.span? seconds with
  | .error e => .fail e w
  | .ok span =>
    match w.clock.shift? span with
    | .error e => .fail e w
    | .ok clock => .ok () { w with clock := clock }

instance : Host Outside where
  now w := w.clock
  isStopping w := w.stopping
  say line w := .ok () { w with printed := w.printed ++ [line] }
  notify n w := { w with notices := w.notices ++ [n] }
  wait seconds w :=
    let w := { w with waits := w.waits ++ [seconds] }
    (moveClock seconds w).andThen fun _ w =>
      .ok ()
        { w with
          look := w.look + 1
          stopping := w.stopping || w.last.any fun n => decide (n ≤ w.waits.length) }
  load path w := w.disk.read? path
  save path text w := { w with disk := w.disk.write path text.toUTF8 }

instance : Service Outside where
  login access w :=
    match w.recording.noLogin with
    | some e => .fail e w
    | none => .ok () { w with opened := w.opened ++ [access] }
  recent user limit w :=
    let name := user.getD ""
    let w := { w with requests := w.requests ++ [Request.user name] }
    match w.recording.users.lookup name with
    | none => .fail Recording.noUser w
    | some looks =>
      let w := { w with requests := w.requests ++ [Request.plays limit] }
      match Recording.atLook looks w.look with
      | some (.error e) => .fail e w
      | some (.ok tracks) => .ok (Recording.cut limit tracks) w
      | none => .ok [] w
  submit s w :=
    match Recording.refusal? w.recording.refused s.title with
    | some e => .fail e w
    | none => .ok () { w with submitted := w.submitted ++ [s] }

instance : Speakers Outside where
  discover w := do
    let seen ← w.recording.seen w.look
    .ok (seen.map fun s =>
      let name := (w.recording.seenAt? w.look s.address).bind Recording.Seen.name
      ⟨s.address, name.getD s.address⟩)
  track s w :=
    match w.recording.seenAt? w.look s.address with
    | some seen => seen.track
    | none => .error Recording.gone
  transport s w :=
    match w.recording.seenAt? w.look s.address with
    | some seen => .ok seen.transport
    | none => .error Recording.gone

end Outside

end Listening

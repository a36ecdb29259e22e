import Listening.Host
import Listening.Ledger
import Listening.Poller.Pace
import Listening.Reconciler

/-!
# Pollers

A `Poller` looks at one source again and again. Each look brings a snapshot;
the reconciler makes candidates of it, the ledger keeps back those that were
discovered before, and the rest is announced and delivered.

A snapshot that comes after the sign to stop, or that holds a malformed
play, changes nothing. A run ends with that sign, or when the source could
not be read too often in a row.
-/

namespace Listening

/-- **One who looks at a source**, of state `σ`, on a host `ω`. -/
structure Poller (σ ω : Type) where
  /-- The name of the source. -/
  name : String
  /-- Looks at the source. -/
  fetch : σ → ω → Step (σ × ω) Snapshot
  /-- Takes what was discovered, in the order in which it was played. -/
  deliver : List Play → ω → Step ω Unit
  /-- What is done after every poll that went well. -/
  afterPoll : Option (σ → Reconciler → ω → Step ω Unit) := none
  /-- How often, and how patiently. -/
  pace : Pace := {}

/-- **What a poller knows**, and the host it runs on. -/
structure Poller.State (σ ω : Type) where
  /-- The source. -/
  source : σ
  /-- What makes candidates of snapshots. -/
  reconciler : Reconciler := {}
  /-- What was discovered lately. -/
  ledger : Ledger := {}
  /-- The host. -/
  host : ω

/-- **How a run ends.** -/
inductive Poller.Ending where
  /-- By the sign to stop. -/
  | stopped
  /-- By giving up. -/
  | gaveUp
  /-- Not yet, when the steps it was given were used up. -/
  | unfinished
  deriving DecidableEq, Repr

namespace Poller

variable {σ ω : Type} [Host ω]

namespace State

/-- The same state with the host changed. -/
def on (s : State σ ω) (w : ω) : State σ ω := { s with host := w }

/-- The candidates of a snapshot. What the reconciler keeps is written. -/
def reconcile (snapshot : Snapshot) (s : State σ ω) : Step (State σ ω) (List Play) :=
  let step := s.reconciler.process snapshot (Host.now s.host)
  let (reconciler, host) := step.state.save Host.save s.host
  ⟨step.result, { s with reconciler := reconciler, host := host }⟩

/-- The plays of a snapshot that are new. -/
def discover (snapshot : Snapshot) (s : State σ ω) : Step (State σ ω) (List Play) :=
  (s.reconcile snapshot).andThen fun candidates s =>
    (s.ledger.discover candidates).within fun l => { s with ledger := l }

end State

/-- What is said of a play that was discovered. -/
def discovery? (p : Poller σ ω) (play : Play) : Except Fault String := do
  .ok ("Discovered from " ++ p.name ++ ": " ++ (← play.describeDated?))

/-- Says that a play was discovered. -/
def announce (p : Poller σ ω) (play : Play) (w : ω) : Step ω Unit :=
  (Step.of (p.discovery? play) w).andThen fun line w => Host.tell line "INFO" w

/-- Announces plays and delivers them, if there are any. -/
def forward (p : Poller σ ω) (plays : List Play) (w : ω) : Step ω (List Play) :=
  (Step.forEach p.announce plays w).andThen fun _ w =>
    if plays.isEmpty then .ok plays w
    else (p.deliver plays w).andThen fun _ w => .ok plays w

/-- Takes in a snapshot: the plays that are new. -/
def takeIn (p : Poller σ ω) (snapshot : Snapshot) (s : State σ ω) :
    Step (State σ ω) (List Play) :=
  if Host.isStopping s.host then .ok [] s
  else
    match snapshot.validate? with
    | .error e => if e.nature = .malformed then .ok [] s else .fail e s
    | .ok () => (s.discover snapshot).andThen fun plays s => (p.forward plays s.host).within s.on

/-- **Looks at the source once**: the plays that are new. -/
def poll (p : Poller σ ω) (s : State σ ω) : Step (State σ ω) (List Play) :=
  ((p.fetch s.source s.host).within fun (source, host) =>
    { s with source := source, host := host }).andThen p.takeIn

/-! ## Runs -/

/-- Says that the source is given up, and tells whoever runs the program. -/
def giveUp (p : Poller σ ω) (failures : Nat) (reason : Fault) (w : ω) : Step ω Unit :=
  let times := "failed " ++ toString failures ++ " times in a row"
  (Host.tell (p.name ++ " " ++ times ++ ", giving up") "ERROR" w).andThen fun _ w =>
    .ok () (Host.notify
      { level := "ERROR"
        title := "Source stopped"
        message := "Polling " ++ p.name ++ " " ++ times ++ ": " ++ reason.text
        extra := [("source", .str p.name)] } w)

/-- Does what is to be done after a poll that went well. -/
def conclude (p : Poller σ ω) (s : State σ ω) : Step (State σ ω) Unit :=
  match p.afterPoll with
  | none => .ok () s
  | some act => (act s.source s.reconciler s.host).within s.on

/-- Looks at the source until an ending, after so many failures in a row.
`fuel` bounds the number of looks. -/
def loop (p : Poller σ ω) : (fuel failures : Nat) → State σ ω → Step (State σ ω) Ending
  | 0, _, s => .ok .unfinished s
  | fuel + 1, failures, s =>
    if Host.isStopping s.host then .ok .stopped s
    else
      let polled := p.poll s
      let s := polled.state
      match p.pace.judge failures polled.result with
      | .cleared =>
        (p.conclude s).andThen fun _ s =>
          ((Host.wait p.pace.interval s.host).within s.on).andThen fun _ s => p.loop fuel 0 s
      | .failed failures =>
        (Step.of (p.pace.backoff? failures) s).andThen fun pause s =>
          ((Host.wait pause s.host).within s.on).andThen fun _ s => p.loop fuel failures s
      | .skipped =>
        ((Host.wait p.pace.interval s.host).within s.on).andThen fun _ s =>
          p.loop fuel failures s
      | .exhausted failures reason =>
        ((p.giveUp failures reason s.host).within s.on).andThen fun _ s => .ok .gaveUp s
      | .broken reason => .fail reason s

/-- Says that the source is looked at from now on, and how often. -/
def introduce (p : Poller σ ω) (w : ω) : Step ω Unit :=
  Host.tell
    ("Polling " ++ p.name ++ " every " ++ Number.shortest p.pace.interval ++ "s") "INFO" w

/-- **Looks at the source until the sign to stop**, or until it is given
up. -/
def run (p : Poller σ ω) (fuel : Nat) (s : State σ ω) : Step (State σ ω) Ending :=
  ((p.introduce s.host).within s.on).andThen fun _ s => p.loop fuel 0 s

/-! ## Laws -/

/-- A snapshot that comes after the sign to stop changes nothing. -/
theorem takeIn_of_isStopping (p : Poller σ ω) (snapshot : Snapshot) {s : State σ ω}
    (h : Host.isStopping s.host = true) : p.takeIn snapshot s = .ok [] s := by
  simp [takeIn, h]

/-- A snapshot that holds a malformed play changes nothing. -/
theorem takeIn_of_malformed (p : Poller σ ω) {snapshot : Snapshot} {e : Fault} (s : State σ ω)
    (h : snapshot.validate? = .error e) (he : e.nature = .malformed) :
    p.takeIn snapshot s = .ok [] s := by
  simp [takeIn, h, he]

/-- A run ends at once after the sign to stop. -/
theorem loop_of_isStopping (p : Poller σ ω) (fuel failures : Nat) {s : State σ ω}
    (h : Host.isStopping s.host = true) :
    p.loop (fuel + 1) failures s = .ok .stopped s := by
  simp [loop, h]

end Poller

end Listening

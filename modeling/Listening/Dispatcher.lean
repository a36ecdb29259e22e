import Listening.Host
import Listening.Match
import Listening.Play.Alike
import Listening.Window

/-!
# Dispatching

The `Dispatcher` submits plays to clients. For each client – by name – it
knows the plays submitted lately, in a window, and submits none that is one
listen with one of those; nor does a client get what was read from its own
account.

All plays of a batch are claimed before the first is submitted: a claim is
an entry in the window. If a client refuses a play, its claim is forgotten,
whoever runs the program is told, and the rest is submitted all the same.
Any other fault ends the batch, also one of the console, on which every play
that a client took is shown.
-/

namespace Listening

/-- **Where plays are submitted**, on a host. -/
structure Client (ω : Type) where
  /-- The name, under which it is announced and its window is kept. -/
  name : String
  /-- Whether a play was read from the account of the client itself. -/
  isOwn : Play → Except Fault Bool
  /-- The plays it already has, newest first, as far as they are asked
  for. -/
  recent : ω → Step ω (List Play)
  /-- Submits a play. -/
  submit : Play → ω → Step ω Unit

/-- What is said of a play that a client took. -/
def Client.receipt? {ω : Type} (client : Client ω) (play : Play) : Except Fault String := do
  .ok ("Scrobbled to " ++ client.name ++ ": " ++ (← play.describe?))

/-- How many of the plays it already has a client is asked for. -/
def Client.asked : Nat := 50

/-- **A play in the window of a client.** -/
structure Claim where
  /-- The play. -/
  play : Play
  /-- Its place among all plays that were dispatched; none for one the
  client had before. -/
  ticket : Option Nat

/-- **The plays submitted lately**, by client, and the host on which they are
submitted. -/
structure Dispatcher (ω : Type) where
  /-- The windows. -/
  windows : List (String × Window Claim)
  /-- The next ticket. -/
  next : Nat := 0
  /-- The host. -/
  host : ω

namespace Dispatcher

/-- The size of the windows, unless another one is set. -/
def defaultSize : Int := 50

variable {ω : Type}

/-- **A dispatcher for clients**, which knows of no play yet. -/
def ofClients? (clients : List (Client ω)) (size : Int := defaultSize) (host : ω) :
    Except Fault (Dispatcher ω) := do
  .ok { windows := ← clients.mapM fun c => do .ok (c.name, ← Window.ofSize? size), host := host }

/-- What is in the window of a client, oldest first. -/
def claims (d : Dispatcher ω) (name : String) : List Claim :=
  match d.windows.lookup name with
  | some w => w.items
  | none => []

/-- The same dispatcher with the window of one name changed. -/
def change (name : String) (f : Window Claim → Window Claim) (d : Dispatcher ω) : Dispatcher ω :=
  { d with windows := d.windows.map fun (k, w) => if k = name then (k, f w) else (k, w) }

/-- The same dispatcher on another host. -/
def on (d : Dispatcher ω) (host : ω) : Dispatcher ω := { d with host := host }

/-! ## What a client has -/

/-- **The play in the window of a client that is one listen with another**;
the newest, if there are more. -/
def existing? (d : Dispatcher ω) (name : String) (play : Play) : Except Fault (Option Play) :=
  Match.lastSame? play ((d.claims name).map (·.play))

/-- Puts what a client already has into its window. A client that cannot tell
is passed over. -/
def primeOne (client : Client ω) (d : Dispatcher ω) : Step (Dispatcher ω) Unit :=
  let asked := (client.recent d.host).within d.on
  match asked.result with
  | .ok plays =>
    (Step.of (Play.sort? plays) asked.state).andThen fun plays d =>
      .ok () (d.change client.name (Window.pushAll (plays.map fun p => ⟨p, none⟩)))
  | .error e => if e.nature = .client then .ok () asked.state else .fail e asked.state

/-- **Puts what the clients already have into their windows.** -/
def prime (clients : List (Client ω)) (d : Dispatcher ω) : Step (Dispatcher ω) Unit :=
  (Step.forEach primeOne clients d).andThen fun _ d => .ok () d

/-! ## Claiming -/

/-- Claims a play for a client, unless it is its own or it already has it. -/
def claim (pair : Claim × Client ω) (d : Dispatcher ω) :
    Step (Dispatcher ω) (Option (Claim × Client ω)) :=
  let (claim, client) := pair
  (Step.of (client.isOwn claim.play) d).andThen fun own d =>
    if own then (Step.of claim.play.describe? d).andThen fun _ d => .ok none d
    else
      (Step.of (d.existing? client.name claim.play) d).andThen fun existing d =>
        match existing with
        | some _ => (Step.of claim.play.describe? d).andThen fun _ d => .ok none d
        | none => .ok (some pair) (d.change client.name (Window.push claim))

/-- Claims every play of a row for every client. -/
def claimAll (clients : List (Client ω)) (plays : List Play) (d : Dispatcher ω) :
    Step (Dispatcher ω) (List (Claim × Client ω)) :=
  let claims := plays.zipIdx d.next |>.map fun (p, ticket) => (⟨p, some ticket⟩ : Claim)
  let pairs := claims.flatMap fun claim => clients.map fun client => (claim, client)
  (Step.forEach claim pairs { d with next := d.next + plays.length }).andThen fun pending d =>
    .ok (pending.filterMap id) d

/-! ## Forgetting -/

/-- Whether a claim in a window is taken for another one: it is that very
claim, or its play is alike. -/
def isTakenFor (claim entry : Claim) : Bool :=
  entry.ticket == claim.ticket || entry.play.alike claim.play

/-- A window without a claim: the oldest entry taken for it is removed. -/
def forget (claim : Claim) (w : Window Claim) : Window Claim :=
  { w with items := w.items.eraseP (isTakenFor claim) }

/-! ## Laws -/

/-- Changing the window of one name leaves the others as they are. -/
theorem claims_change_of_ne {name other : String} (h : other ≠ name)
    (f : Window Claim → Window Claim) (d : Dispatcher ω) :
    (d.change name f).claims other = d.claims other := by
  suffices ∀ ws : List (String × Window Claim),
      (ws.map fun (k, w) => if k = name then (k, f w) else (k, w)).lookup other
        = ws.lookup other by simp [claims, change, this]
  intro ws
  induction ws with
  | nil => rfl
  | cons p rest ih =>
    obtain ⟨k, w⟩ := p
    by_cases hk : k = name
    · subst hk
      simpa [List.lookup_cons, show (other == k) = false by simpa using h] using ih
    · cases hok : other == k <;> simp [List.lookup_cons, hk, hok, ih]

/-! ## Submitting -/

variable [Host ω]

/-- Tells that a client refused a play. -/
def report (play : Play) (name : String) (refusal : Refusal) (reason : String)
    (d : Dispatcher ω) : Step (Dispatcher ω) Unit :=
  (Step.of play.describe? d).andThen fun line d =>
    .ok () (d.on (Host.notify
      { level := "ERROR"
        title := "Scrobble failed"
        message := line ++ " could not be scrobbled to " ++ name ++ ": " ++ reason
        extra := [("client", .str name), ("error", .str refusal.name)] } d.host))

/-- **Submits a claimed play** and tells whether the client took it. -/
def submit (pair : Claim × Client ω) (d : Dispatcher ω) : Step (Dispatcher ω) Bool :=
  let (claim, client) := pair
  let submitted := (client.submit claim.play d.host).within d.on
  let d := submitted.state
  match submitted.result with
  | .ok () =>
    (Step.of (client.receipt? claim.play) d).andThen fun line d =>
      ((Host.tell line "INFO" d.host).within d.on).andThen fun _ d => .ok true d
  | .error (.refused refusal reason) =>
    (report claim.play client.name refusal reason (d.change client.name (forget claim))).andThen
      fun _ d => .ok false d
  | .error e => .fail e d

/-- **Submits plays to clients**, in the order in which they were played, and
counts how many were taken. -/
def dispatch (clients : List (Client ω)) (plays : List Play) (d : Dispatcher ω) :
    Step (Dispatcher ω) Nat :=
  (Step.of (Play.sort? plays) d).andThen fun plays d =>
    (claimAll clients plays d).andThen fun pending d =>
      (Step.forEach submit pending d).andThen fun taken d => .ok (taken.count true) d

/-- A dispatcher runs on what its host runs on. -/
instance : Host (Dispatcher ω) where
  now d := Host.now d.host
  isStopping d := Host.isStopping d.host
  say line d := (Host.say line d.host).within d.on
  notify n d := d.on (Host.notify n d.host)
  wait seconds d := (Host.wait seconds d.host).within d.on
  load path d := Host.load path d.host
  save path text d := d.on (Host.save path text d.host)

end Dispatcher

end Listening

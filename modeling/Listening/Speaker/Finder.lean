import Listening.Host
import Listening.Speaker

/-!
# Finding speakers

The speakers on the network are a source: every look at it brings a report
of each. Which speakers there are is found out anew when the last discovery
is some time ago; what has changed is said.

A speaker that cannot be read is left out, and the others are not: only a
report that is no report at all is passed on as a fault.
-/

namespace Listening.Speaker

/-- **One who looks at the speakers.** -/
structure Finder where
  /-- The name of the source. -/
  name : String := "sonos"
  /-- Seconds between two discoveries. -/
  interval : Float := 10.0
  /-- The speakers known. -/
  known : List Speaker := []
  /-- When the last discovery was. -/
  discoveredAt : Option Instant := none

namespace Finder

variable {ω : Type}

/-- The names of speakers, by address; of two with one address the name of
the last one counts. -/
def names (f : Finder) : List (String × String) :=
  f.known.reverse.map fun s => (s.address, s.name)

/-- Whether it is time to discover. -/
def isDue? (f : Finder) (now : Instant) : Except Fault Bool :=
  match f.discoveredAt with
  | none => .ok true
  | some t => do .ok (decide (f.interval ≤ Instant.seconds (← now.minus? t)))

/-- Whether a fault of a discovery means that there are no speakers to be
found. -/
def isLost (e : Fault) : Bool :=
  e.nature == .speaker || e.nature.isSystem || e.nature == .kind

/-- Whether a fault of a reading means that the speaker is left out. -/
def isUnreadable (e : Fault) : Bool :=
  isLost e || e.nature.isValue || e.nature == .key

/-- Whether one of some speakers has an address. -/
def hasAddress (speakers : List Speaker) (address : String) : Bool :=
  speakers.any (·.address == address)

/-- What is said of a change of speakers. -/
def changes (old new : List Speaker) : List String :=
  let line (what : String) (s : Speaker) : String :=
    what ++ ": " ++ s.name ++ " (" ++ s.address ++ ")"
  let found := new.filter fun s => !hasAddress old s.address
  let removed := old.filter fun s => !hasAddress new s.address
  found.map (line "New speaker found") ++ removed.map (line "Speaker removed")
    ++ if found.isEmpty && removed.isEmpty then []
      else ["Updated speaker count: " ++ toString new.length]

section

variable [Host ω] [Speakers ω]

/-- **Finds out which speakers there are.** -/
def discover (f : Finder) (w : ω) : Step (Finder × ω) Unit :=
  let f := { f with discoveredAt := some (Host.now w) }
  match Speakers.discover w with
  | .error e =>
    if isLost e then
      ((Host.tell "Error discovering speakers" "ERROR" w).within (f, ·)).andThen fun _ (f, w) =>
        .ok () ({ f with known := [] }, w)
    else .fail e (f, w)
  | .ok speakers =>
    ((Step.forEach (Host.tell · "INFO") (changes f.known speakers) w).within (f, ·)).andThen
      fun _ (f, w) =>
        let f := { f with known := speakers }
        if speakers.isEmpty then
          (Host.tell "No Sonos speakers found" "WARNING" w).within (f, ·)
        else .ok () (f, w)

/-- Reads a speaker. -/
def read? (f : Finder) (w : ω) (s : Speaker) : Except Fault Report := do
  let track ← Speakers.track s w
  let transport ← Speakers.transport s w
  s.report? f.name track transport

/-- Reads speakers, but for those that cannot be read. -/
def readAll? (f : Finder) (w : ω) : List Speaker → Except Fault (List Report)
  | [] => .ok []
  | s :: rest =>
    match f.read? w s with
    | .ok report => do .ok (report :: (← f.readAll? w rest))
    | .error e => if isUnreadable e then f.readAll? w rest else .error e

/-- **Looks at the speakers.** -/
def fetch (f : Finder) (w : ω) : Step (Finder × ω) Snapshot :=
  (Step.of (f.isDue? (Host.now w)) (f, w)).andThen fun due (f, w) =>
    (if due then f.discover w else .ok () (f, w)).andThen fun _ (f, w) =>
      (Step.of (f.readAll? w f.known) (f, w)).andThen fun reports s =>
        .ok { players := reports } s

end

end Finder

end Listening.Speaker

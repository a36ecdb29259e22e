import Listening.History.Growth
import Listening.Step
import Listening.Window

/-!
# History

A source that lists what was played lately lists most of it again every
time. A `History` keeps the list last accepted and finds what is new in the
next one: plays on top of what is known are new listens, and so is a known
play that has moved to the top. Everything else – plays at the bottom, plays
in between, a list that has shrunk – brings nothing new.

A source may also return a list that is out of date. So the last lists
accepted are remembered, by what was played, and one that comes back is not
accepted.

Plays on top of a list may have been skipped and not listened to. Each one
but the newest must fit into the time since the last look.
-/

namespace Listening

/-- The plays of a list, by what they are. -/
abbrev History.Signature := List Identity

/-- **What is known of a list of what was played lately.** -/
structure History where
  /-- Whether the source lists its newest play first. -/
  newestFirst : Bool := true
  /-- How many lists are remembered; at least two are. -/
  memory : Int := 10
  /-- The seconds by which plays may exceed the time since the last look. -/
  tolerance : Float := 10
  /-- The list last accepted, newest first. -/
  known : Option (List Play) := none
  /-- When the last look was. -/
  observedAt : Option Instant := none
  /-- The lists accepted, the last one last. -/
  seen : List History.Signature := []

namespace History

/-- What became of a list as a whole. -/
inductive Kind where
  /-- Plays were added. -/
  | added
  /-- A play was moved to an end. -/
  | bump
  /-- Neither. -/
  | none
  deriving DecidableEq, Repr

/-- The word for what became of a list. -/
def Kind.word : Kind → String
  | .added => "added"
  | .bump => "bump"
  | .none => "none"

/-- **What a look at a list brought.** -/
structure Finding where
  /-- The new listens, newest first. -/
  plays : List Play
  /-- Whether the list could be made sense of. -/
  consistent : Bool
  /-- Whether the list was accepted as the one known. -/
  accepted : Bool
  /-- What became of the list. -/
  kind : Kind
  /-- Where it has changed. -/
  place : Option Place := Option.none
  /-- Why nothing new was found. -/
  reason : Option String := Option.none
  /-- What became of each entry. -/
  entries : List ListDiff.Entry := []

/-! ## Remembering -/

/-- The plays of a list, by what they are. -/
def signature? (plays : List Play) : Except Fault Signature := plays.mapM Play.identity?

/-- How many lists are remembered. -/
def capacity (h : History) : Nat := max 2 h.memory.toNat

/-- A list with the newest play first. -/
def ordered (h : History) (plays : List Play) : List Play :=
  if h.newestFirst then plays else plays.reverse

/-- **Accepts a list.** -/
def accept (plays : List Play) (now : Instant) (h : History) : Step History Unit :=
  let h := { h with known := some plays, observedAt := some now }
  (Step.of (signature? plays) h).andThen fun signature h =>
    .ok () { h with seen := Window.lastOf h.capacity (h.seen ++ [signature]) }

/-- **Begins anew with a list**, such as one that was kept in a file. -/
def restore (plays : List Play) (observedAt : Instant) (h : History) : Step History Unit :=
  { h with seen := [] }.accept (h.ordered plays) observedAt

/-- Whether a list is one that was accepted before the last one. -/
def isEarlier (h : History) (signature : Signature) : Bool :=
  h.seen.dropLast.contains signature

/-! ## Plays that were skipped -/

/-- **Fits items into a budget**, one after the other: an item that costs
more than is left is dropped, and any other is kept and paid for. An item
without a cost is always kept. The kept ones come first. -/
def fit {α β : Type} [LE β] [DecidableLE β] [Sub β] :
    β → List (α × Option β) → List α × List α
  | _, [] => ([], [])
  | budget, (a, none) :: rest =>
    let (kept, dropped) := fit budget rest
    (a :: kept, dropped)
  | budget, (a, some cost) :: rest =>
    if cost ≤ budget then
      let (kept, dropped) := fit (budget - cost) rest
      (a :: kept, dropped)
    else
      let (kept, dropped) := fit budget rest
      (kept, a :: dropped)

/-- The seconds that plays may take up. -/
def budget? (h : History) (observedAt now : Instant) : Except Fault Float := do
  .ok (Instant.seconds (← now.minus? observedAt) + h.tolerance)

/-- **Drops the added plays that cannot have been listened to** since the
last look. The newest one is kept; the others are taken oldest first. -/
def unskipped? (h : History) (added : List Play) (now : Instant) : Except Fault (List Play) :=
  match added, h.observedAt with
  | newest :: older@(_ :: _), some observedAt => do
    let budget ← h.budget? observedAt now
    let costs ← older.reverse.mapM fun p => p.duration.number?.map fun cost => (p, cost)
    let (kept, dropped) := fit budget costs
    let _ ← dropped.mapM Play.describe?
    .ok (newest :: kept.reverse)
  | _, _ => .ok added

/-- A play that has a time: its own, or else now. -/
def stamp (now : Instant) (p : Play) : Play := { p with playedAt := p.playedAt <|> some now }

/-! ## Looking -/

/-- What a clean addition brings, once the list is accepted. -/
def grown (growth : Growth) (entries : List ListDiff.Entry) (candidate : List Play)
    (now : Instant) (h : History) : Step History Finding :=
  if growth.isPrepend then
    (Step.of (h.unskipped? (growth.plays candidate) now) h).andThen fun plays h =>
      (h.accept candidate now).andThen fun _ h =>
        .ok ⟨plays.map (stamp now), true, true, .added, growth.place?, none, entries⟩ h
  else
    (h.accept candidate now).andThen fun _ h =>
      .ok
        ⟨[], false, true, .added, growth.place?,
          some "Plays were added to the end of history, likely a backfill or pagination change",
          entries⟩ h

/-- What a single move brings, once the list is accepted. -/
def bumped (bump : Bump) (entries : List ListDiff.Entry) (candidate : List Play)
    (now : Instant) (h : History) : Step History Finding :=
  (h.accept candidate now).andThen fun _ h =>
    if bump = .toTop then
      .ok
        ⟨(bump.plays candidate).map (stamp now), true, true, .bump, bump.place?, none, entries⟩ h
    else
      .ok
        ⟨[], false, true, .bump, bump.place?,
          some "A previously seen play moved to the end of history", entries⟩ h

/-- What any other change brings. A shorter list may be only a part of what
there is, and is not accepted. -/
def jumbled (d : ListDiff) (shrunk : Bool) (candidate : List Play) (now : Instant)
    (h : History) : Step History Finding :=
  let accepted : Step History Unit := if shrunk then .ok () h else h.accept candidate now
  accepted.andThen fun _ h =>
    .ok
      ⟨[], false, !shrunk, if d.entries.any (·.isAdded) then .added else .none, some .insert,
        some "History changed out of order (insert, replacement or compound change)",
        d.entries⟩ h

/-- What a list brings that differs from the known one and is not an earlier
one. -/
def changed (known candidate : List Play) (d : ListDiff) (now : Instant) (h : History) :
    Step History Finding :=
  let shrunk := decide (candidate.length < known.length)
  if shrunk && !d.entries.any (·.isAdded) then
    .ok
      ⟨[], false, false, .none, none,
        some "History lost plays without gaining any, keeping the known list", d.entries⟩ h
  else
    (Step.of (Growth.ofPlays? known candidate) h).andThen fun growth h =>
      if growth.isClean then h.grown growth d.entries candidate now
      else
        (Step.of (Bump.ofPlays? known candidate) h).andThen fun bump h =>
          if bump ≠ .none then h.bumped bump d.entries candidate now
          else h.jumbled d shrunk candidate now

/-- **Looks at a list** as the source returned it. -/
def evaluate (plays : List Play) (now : Instant) (h : History) : Step History Finding :=
  let candidate := h.ordered plays
  match h.known with
  | none =>
    (h.accept candidate now).andThen fun _ h =>
      .ok
        ⟨[], true, true, .none, none,
          some "No previous history, using this list as the baseline", []⟩ h
  | some known =>
    (Step.of (ListDiff.ofPlays? known candidate) h).andThen fun d h =>
      if d.outcome = .equal then
        .ok ⟨[], true, false, .none, none, none, d.entries⟩ { h with observedAt := some now }
      else
        (Step.of (signature? candidate) h).andThen fun signature h =>
          if h.isEarlier signature then
            .ok
              ⟨[], false, false, .none, none,
                some "History is identical to an earlier snapshot, upstream returned stale data",
                d.entries⟩ h
          else h.changed known candidate d now

end History

end Listening

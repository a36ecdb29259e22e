import Listening.Play
import Listening.Speaker.Time

/-!
# Speakers

A `Speaker` has an address and a name. It tells what it does – its transport
state – and what the track is that it plays; `Speaker.report?` makes a report
of the two. A speaker without a title plays nothing.
-/

namespace Listening

/-- **A speaker on the network.** -/
structure Speaker where
  /-- Its address. -/
  address : String
  /-- What it is called. -/
  name : String
  deriving DecidableEq, Repr

namespace Speaker

/-- What the transport states mean. -/
def transportStates : List (String × Status) :=
  [("PLAYING", .playing), ("TRANSITIONING", .playing), ("PAUSED_PLAYBACK", .paused),
    ("STOPPED", .stopped)]

/-- A field of what a speaker tells. -/
def field (name : String) (info : List (String × Json)) : Json :=
  (Json.lookup name info).getD .null

/-- The status of a speaker. -/
def status (transport : List (String × Json)) : Status :=
  (transportStates.lookup (field "current_transport_state" transport).display).getD .unknown

/-- A whole number of seconds as a position or a length. -/
def exactly? (n : Int) : Except Fault Float :=
  let x := Number.ofInt n
  if x.isInf then .error .tooLarge else .ok x

/-- A label that says something, or none. -/
def given (v : Json) : Label := if v.truthy then .ofJson v else .absent

/-- **The play a speaker shows**, as seen by a source. -/
def play? (s : Speaker) (source : String) (track : List (String × Json)) :
    Except Fault Play := do
  let length ← time? (field "duration" track)
  let position ← time? (field "position" track)
  let artist := field "artist" track
  let duration ← match length with
    | none => .ok Amount.absent
    | some n => if n = 0 then .ok .absent else (exactly? n).map .seconds
  let position ← match position with
    | none => .ok none
    | some n => (exactly? n).map some
  .ok
    { title := .ofJson (field "title" track)
      artists := if artist.truthy then [.ofJson artist] else []
      album := given (field "album" track)
      duration := duration
      source := .text source
      trackId := given (field "uri" track)
      position := position
      device := .text s.address }

/-- **What a speaker shows**, as seen by a source. -/
def report? (s : Speaker) (source : String) (track transport : List (String × Json)) :
    Except Fault Report := do
  let platform : Platform := ⟨s.address, Platform.noUser⟩
  if (field "title" track).truthy then
    let play ← s.play? source track
    .ok ⟨platform, some (status transport), some play, play.position⟩
  else .ok ⟨platform, some (status transport), none, none⟩

end Speaker

/-- **A state on which speakers can be asked.** -/
class Speakers (ω : Type) where
  /-- The speakers on the network, if there are any. -/
  discover : ω → Except Fault (List Speaker)
  /-- What a speaker tells about its track. -/
  track : Speaker → ω → Except Fault (List (String × Json))
  /-- What a speaker tells about its transport. -/
  transport : Speaker → ω → Except Fault (List (String × Json))

end Listening

import Listening.Fault
import Listening.Label
import Listening.Text.Pieces

/-!
# Times of speakers

A speaker writes how long a track is and how far it has got as hours,
minutes and seconds, or as minutes and seconds, with colons between them.
Each of them is any whole number. A speaker that does not know writes
nothing, or that it is not implemented.
-/

namespace Listening.Speaker

/-- What a speaker writes for what it does not know. -/
def notImplemented : String := "NOT_IMPLEMENTED"

/-- Whether what a speaker writes holds the word for what it does not
know. Numbers hold no words. -/
def mentionsNotImplemented? : Json → Except Fault Bool
  | .str s => .ok (Text.contains notImplemented.toList s.toList)
  | .arr items => .ok (items.any fun v => v.alike (.str notImplemented))
  | .obj fields => .ok (Json.lookup notImplemented fields).isSome
  | _ => .error .notList

/-- The whole number a piece of a time writes. -/
def part? (piece : List Char) : Except Fault Int :=
  match Number.wholeNumber? (.ofList piece) with
  | some n => .ok n
  | none => .error .noNumeral

/-- **The seconds a time writes.** -/
def seconds? (s : String) : Except Fault Int :=
  match Text.pieces ':' s.toList with
  | [hours, minutes, seconds] => do
    .ok ((← part? hours) * 3600 + (← part? minutes) * 60 + (← part? seconds))
  | [minutes, seconds] => do .ok ((← part? minutes) * 60 + (← part? seconds))
  | _ => .error (.unrecognizedTime s)

/-- **What a speaker writes as a time**, in seconds; nothing, if it does not
know. -/
def time? (raw : Json) : Except Fault (Option Int) :=
  if !raw.truthy then .ok none
  else do
    if ← mentionsNotImplemented? raw then .ok none
    else
      match raw with
      | .str s => (seconds? s).map some
      | _ => .error .notRecord

end Listening.Speaker

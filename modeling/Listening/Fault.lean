import Listening.Json
import Listening.Number.Decimal

/-!
# Faults

Everything that can go wrong is a `Fault`, named for its cause. Some faults
are found in the values at hand: a time without an offset beside one with
it, a text where a number belongs. Some are refusals of this library and
come with a message. The rest is reported by the outside – the network, a
speaker – as a `Failure`, and is passed on or taken for a fault of another kind.

What handles a fault decides by its `Nature`: a failed read is retried, a
bad value is skipped.
-/

namespace Listening

/-- **The nature of a fault**: what the one who handles it goes by. -/
inductive Nature where
  /-- The operating system or the network below failed. -/
  | system
  /-- An HTTP request failed; this counts as `system`. -/
  | request
  /-- A value is not acceptable. -/
  | value
  /-- A play is malformed; this counts as `value`. -/
  | malformed
  /-- A value is of the wrong kind. -/
  | kind
  /-- A field is missing. -/
  | key
  /-- A value has no such fields at all. -/
  | attribute
  /-- A number or a time is out of range. -/
  | overflow
  /-- A source could not be read. -/
  | source
  /-- A client could not submit. -/
  | client
  /-- A speaker did not answer. -/
  | speaker
  /-- The listening service failed. -/
  | service
  /-- The listening service answered with an error of its own; this counts
  as `service`. -/
  | answer
  /-- The listening service could not be reached; this counts as
  `service`. -/
  | unreachable
  /-- Anything else. -/
  | other
  deriving DecidableEq, Repr

namespace Nature

/-- Whether the system below failed. -/
def isSystem (n : Nature) : Bool := n = .system ∨ n = .request

/-- Whether a value was not acceptable. -/
def isValue (n : Nature) : Bool := n = .value ∨ n = .malformed

/-- Whether the listening service failed. -/
def isService (n : Nature) : Bool := n = .service ∨ n = .answer ∨ n = .unreachable

end Nature

/-- **A failure reported by the outside.** -/
structure Failure where
  /-- What handles it goes by this. -/
  nature : Nature
  /-- What the reporter calls it. -/
  name : String
  /-- What the reporter says. -/
  message : String
  /-- The code of an answer of the listening service. -/
  status : Json := .null

/-- The text of a failure. -/
def Failure.text (f : Failure) : String :=
  match f.nature with
  | .key => Text.quoted f.message
  | .unreachable => "NetworkError: " ++ f.message
  | _ => f.message

/-- **Why a client did not submit.** -/
inductive Refusal where
  /-- The credentials or the session are not accepted. -/
  | credentials
  /-- Too many requests. -/
  | tooMany
  /-- The service could not be reached. -/
  | unreachable
  /-- The service answered with another error. -/
  | unknown
  /-- No more is known. -/
  | plain
  deriving DecidableEq, Repr

/-- The name under which a refusal is announced. -/
def Refusal.name : Refusal → String
  | .credentials => "LastFMAuthError"
  | .tooMany => "LastFMRateLimitError"
  | .unreachable => "LastFMNetworkError"
  | .unknown => "LastFMUnknownError"
  | .plain => "ScrobbleClientError"

/-- **Why an operation fails.** -/
inductive Fault where
  /-- A text is needed and something else is there. -/
  | notText
  /-- A number is needed and something else is there. -/
  | notNumber
  /-- A list is needed and something else is there. -/
  | notList
  /-- An object is needed and something else is there. -/
  | notRecord
  /-- A row of pairs is needed and one of its items is no pair. -/
  | notPairs
  /-- A list or an object cannot label an entry. -/
  | notIndexable
  /-- A time with an offset meets one without. -/
  | mixedTimes
  /-- A field is missing. -/
  | noField (name : String)
  /-- A text writes no number. -/
  | noNumeral
  /-- A text writes no time. -/
  | noDate
  /-- What is no number has no whole part. -/
  | undefinedNumber
  /-- An infinity has no whole part. -/
  | endlessNumber
  /-- A whole number is so large that no floating-point number is near. -/
  | tooLarge
  /-- A time or a span is beyond what the calendar can hold. -/
  | outOfTime
  /-- A year is not between 1 and 9999. -/
  | yearOutOfRange
  /-- A timestamp is so large that its year cannot be computed. -/
  | unheardTimestamp
  /-- A window cannot hold a negative count of plays. -/
  | negativeWindow
  /-- Bytes are no text. -/
  | notUtf8
  /-- A whole number has too many digits. -/
  | tooManyDigits
  /-- Too many lists and objects are inside one another. -/
  | tooDeep
  /-- A table can only show texts. -/
  | notShown
  /-- No status has this name. -/
  | noStatus (name : String)
  /-- A listen range would end before it starts. -/
  | endsBeforeStart
  /-- A play has no title. -/
  | untitled
  /-- A play is shorter than nothing. -/
  | negativeDuration (title duration : String)
  /-- A text is no `H:MM:SS` time. -/
  | unrecognizedTime (raw : String)
  /-- Neither a session nor a user name and a password are given. -/
  | noCredentials
  /-- A setting is missing or not acceptable. -/
  | setting (reason : String)
  /-- A source could not be read. -/
  | unreadable (reason : String)
  /-- A client could not submit. -/
  | refused (refusal : Refusal) (reason : String)
  /-- The outside reports a failure. -/
  | outside (failure : Failure)

namespace Fault

/-- What a fault says, where it says anything. -/
def message? : Fault → Option String
  | .endsBeforeStart => some "Listen range cannot end before it starts"
  | .untitled => some "Play is missing a track title"
  | .negativeDuration title duration =>
    some ("Play '" ++ title ++ "' has a negative duration (" ++ duration ++ ")")
  | .unrecognizedTime raw => some ("Unrecognized time format: " ++ Text.quoted raw)
  | .noCredentials => some "Missing Last.fm credentials"
  | .setting reason => some reason
  | .unreadable reason => some reason
  | .refused _ reason => some reason
  | .outside failure => some failure.text
  | _ => none

/-- The text of a fault, where it becomes part of another message. Two faults
that announce nothing have a text all the same. -/
def text : Fault → String
  | .unheardTimestamp => "[Errno 75] Value too large for defined data type"
  | .undefinedNumber => "cannot convert float NaN to integer"
  | f => f.message?.getD ""

/-- The nature of a fault. -/
def nature : Fault → Nature
  | .notText => .kind
  | .notNumber => .kind
  | .notList => .kind
  | .notRecord => .attribute
  | .notPairs => .value
  | .notIndexable => .kind
  | .mixedTimes => .kind
  | .noField _ => .key
  | .noNumeral => .value
  | .noDate => .value
  | .undefinedNumber => .value
  | .endlessNumber => .overflow
  | .tooLarge => .overflow
  | .outOfTime => .overflow
  | .yearOutOfRange => .value
  | .unheardTimestamp => .system
  | .negativeWindow => .value
  | .notUtf8 => .value
  | .tooManyDigits => .value
  | .tooDeep => .other
  | .notShown => .other
  | .noStatus _ => .value
  | .endsBeforeStart => .value
  | .untitled => .malformed
  | .negativeDuration .. => .malformed
  | .unrecognizedTime _ => .value
  | .noCredentials => .value
  | .setting _ => .value
  | .unreadable _ => .source
  | .refused .. => .client
  | .outside failure => failure.nature

end Fault

end Listening

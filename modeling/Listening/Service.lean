import Listening.Host
import Listening.Service.Access
import Listening.Service.Submission
import Listening.Service.Track

/-!
# The listening service

The listening service knows what its users have played lately, and takes
submissions. A `Service` is a state on which it can be asked.

What goes wrong in a request is either an answer of the service, with a code,
or means that the service could not be reached. `Service.asRefusal` makes a
refusal of either; any other fault is passed on.
-/

namespace Listening

/-- **A state on which the listening service can be asked.** -/
class Service (ω : Type) where
  /-- Opens a session. -/
  login : Service.Access → ω → Step ω Unit
  /-- What a user – without a name, the one logged in – has played lately,
  newest first, up to a count. -/
  recent : Option String → Int → ω → Step ω (List Service.Track)
  /-- Submits a play. -/
  submit : Service.Submission → ω → Step ω Unit

namespace Service

/-- The codes that say that the credentials or the session are not
accepted. -/
def credentialCodes : List Int := [4, 9, 14]

/-- The codes that say that there were too many requests. -/
def rateCodes : List Int := [29]

/-- The code of an answer, if it has one. -/
def code? (status : Json) : Except Fault (Option Int) :=
  match (Amount.ofJson status).whole? with
  | .ok code => .ok code
  | .error e => if e.nature.isValue || e.nature == .kind then .ok none else .error e

/-- **The refusal that an answer of the service means.** -/
def refusal? (status : Json) (text : String) : Except Fault (Refusal × String) := do
  match ← code? status with
  | none => .ok (.unknown, "Last.fm API error None: " ++ text)
  | some code =>
    if credentialCodes.contains code then .ok (.credentials, text)
    else if rateCodes.contains code then .ok (.tooMany, text)
    else .ok (.unknown, "Last.fm API error " ++ toString code ++ ": " ++ text)

/-- **What a fault of a request means to a client.** -/
def asRefusal (e : Fault) : Fault :=
  match e with
  | .outside f =>
    if f.nature = .answer then
      match refusal? f.status f.text with
      | .ok (refusal, text) => .refused refusal text
      | .error e => e
    else if f.nature.isService || f.nature.isSystem then .refused .unreachable f.text
    else e
  | e => if e.nature.isSystem then .refused .unreachable e.text else e

/-- An outcome whose fault is a refusal, if it means one. -/
def orRefused {σ α : Type} (x : Step σ α) : Step σ α := ⟨x.result.mapError asRefusal, x.state⟩

/-- **Submits a play**, of which all that is submitted has to make sense. -/
def submitPlay {ω : Type} [Host ω] [Service ω] (p : Play) (w : ω) : Step ω Unit :=
  orRefused ((Step.of (Submission.ofPlay? p (Host.now w)) w).andThen fun s w =>
    Service.submit s w)

end Service

end Listening

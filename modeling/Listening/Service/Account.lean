import Listening.Service

/-!
# Accounts at the listening service

An `Account` is the user of the service to whom plays are submitted – or
whose list is watched. Without a name it is the one logged in.

A play that was read from the list of the account itself is its own, and is
not submitted to it again.
-/

namespace Listening.Service

/-- **A user of the service.** -/
structure Account where
  /-- The name of the user. -/
  user : Option String := none
  /-- The name of the service. -/
  name : String := "lastfm"

namespace Account

/-- How many plays are asked for, unless told otherwise. -/
def defaultLimit : Int := 50

/-- The user whose list is asked for. -/
def listed (a : Account) : Option String := Login.given? a.user

/-- **Whether a play was read from the list of the account.** -/
def isOwn? (a : Account) (p : Play) : Except Fault Bool :=
  match a.listed with
  | none => .ok false
  | some user =>
    if p.user.isGiven && p.source.alike (.text a.name) then do
      .ok ((← p.user.lower?) == Text.lowercase user)
    else .ok false

/-- The plays that tracks from the list of the account stand for. -/
def plays? (a : Account) (tracks : List Track) : Except Fault (List Play) :=
  tracks.mapM fun t => t.play? a.name a.user

variable {ω : Type} [Service ω]

/-- **The plays of the account**, newest first, up to a count. -/
def recent (a : Account) (limit : Int := defaultLimit) (w : ω) : Step ω (List Play) :=
  (orRefused (Service.recent a.listed limit w)).andThen fun tracks w =>
    Step.of (a.plays? tracks) w

end Account

end Listening.Service

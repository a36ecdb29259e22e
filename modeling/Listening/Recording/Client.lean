import Listening.Dispatcher
import Listening.Recording.Reader

/-!
# Recorded clients

A client other than the listening service, played back: what it already has,
and which plays it does not take. It keeps what it takes.
-/

namespace Listening.Outside

/-- **The client at a place** among those that are played back. The plays of
its owner, if it has one, are its own. -/
def client (name : String) (place : Nat) (owner : Option String := none) : Client Outside where
  name := name
  isOwn p := .ok (owner.any fun user => p.user.alike (.text user))
  recent w := match w.takers[place]? with
    | some taker => Step.of (taker.recent.map (·.take Client.asked)) w
    | none => .ok [] w
  submit p w := match w.takers[place]? with
    | some taker => match Recording.refusal? taker.refused p.title <|> taker.closed with
      | some e => .fail e w
      | none =>
        .ok () { w with takers := w.takers.set place { taker with taken := taker.taken ++ [p] } }
    | none => .ok () w

/-- What a client does not take, as it is written in a recording. -/
def refusing (fault? : Json → Option Fault) (v : Json) (taker : Taker) : Taker :=
  { taker with
    closed := fault? (Recording.part "error" v)
    refused := Recording.faultsOf fault? (Recording.part "errors" v) }

/-- A client as it is written in a recording. -/
def takerOf? (fault? : Json → Option Fault) (v : Json) : Except Fault Taker := do
  let plays ← Recording.plays? (Recording.part "recent" v)
  .ok (refusing fault? v
    { recent := match fault? (Recording.part "recent_error" v) with
        | some e => .error e
        | none => .ok plays })

end Listening.Outside

import Listening.Dispatcher
import Listening.Service.Account

/-!
# The listening service as a client

Plays are submitted to an account of the listening service like to any other
client.
-/

namespace Listening.Service

/-- **The client that submits to an account.** -/
def Account.client {ω : Type} [Host ω] [Service ω] (a : Account) : Client ω where
  name := a.name
  isOwn := a.isOwn?
  recent := a.recent Client.asked
  submit := submitPlay

end Listening.Service

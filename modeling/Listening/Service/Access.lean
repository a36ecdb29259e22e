import Listening.Fault

/-!
# Access to the listening service

Whoever uses the service shows the key and the secret of the program, and
either a session key or the name and password of a user. A session key wins
over a password.
-/

namespace Listening.Service

/-- **How a user is known to the service.** -/
inductive Login where
  /-- By a session. -/
  | session (key : String)
  /-- By a name and a password. -/
  | password (user password : String)
  deriving DecidableEq, Repr

/-- **What the service is shown.** -/
structure Access where
  /-- The key of the program. -/
  key : String
  /-- The secret of the program. -/
  secret : String
  /-- How the user is known. -/
  login : Login
  deriving DecidableEq, Repr

namespace Login

/-- A text that is there and not empty. -/
def given? (s : Option String) : Option String := s.filter fun s => !s.isEmpty

/-- **The login of what is known of a user**, if that is enough. -/
def of? (user password session : Option String) : Except Fault Login :=
  match given? session, given? user, given? password with
  | some key, _, _ => .ok (.session key)
  | none, some user, some password => .ok (.password user password)
  | _, _, _ => .error .noCredentials

end Login

/-- The name and the kind of what goes to the service with a request for a
session. -/
def Access.fields (a : Access) : List (String × Json) :=
  [("api_key", .str a.key), ("api_secret", .str a.secret)] ++
    match a.login with
    | .session key => [("session_key", .str key), ("has_password", .bool false)]
    | .password user _ => [("username", .str user), ("has_password", .bool true)]

end Listening.Service

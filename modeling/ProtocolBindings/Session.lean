import ProtocolBindings.Json.Value

/-!
# Sessions

A generated function does not talk to a browser itself.  It hands its call to a session, which
answers with a result or an error as a value.  Connecting, waiting and retrying belong to the
session.
-/

namespace ProtocolBindings

/-- A call as it is handed to a session. -/
structure Call where
  method : String
  parameters : Json
  options : Json
deriving Repr

/-- The answer to a call. -/
inductive CommandResult where
  | ok (result : Json)
  | error (kind : String) (payload : Json)
deriving Repr

namespace CommandResult

/-- The answer to a command that returns nothing. -/
def empty : CommandResult := .ok (.object [])

def isOk : CommandResult → Bool
  | .ok _ => true
  | .error .. => false

end CommandResult

/-- Anything that can carry out a call in a monad. -/
structure Session (m : Type → Type) where
  execute : Call → m CommandResult

/-- Carries out a call and gives the session's answer as it is. -/
def dispatch {m : Type → Type} (session : Session m) (call : Call) : m CommandResult :=
  session.execute call

/-- A session that answers from a list of results, over and over, and counts its calls. -/
def Session.cycling (results : List CommandResult) : Session (StateM Nat) where
  execute _ := fun count =>
    (results.getD (count % results.length) .empty, count + 1)

end ProtocolBindings

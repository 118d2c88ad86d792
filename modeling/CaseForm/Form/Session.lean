import CaseForm.Validation

/-!
Sessions, and what can go wrong on the way to the server.
-/

namespace CaseForm

/-- Why the server did not answer as hoped. -/
inductive TransportError where
  | network (message : String)
  | server (status : Nat) (message : String)
  /-- The server found fault with the submitted values. -/
  | validation (payload : ValidationPayload)
  /-- The session has ended. -/
  | unauthenticated
  deriving DecidableEq, Repr

/-- The wording of an error. -/
def TransportError.message : TransportError → String
  | .network message => "Network failure: " ++ message
  | .server status message =>
    "Server responded with status " ++ toString status ++ ": " ++ message
  | .validation payload =>
    "Server rejected the submitted content (" ++ toString payload.messages.length ++
      " validation message(s))"
  | .unauthenticated => "The session has ended; sign in again to continue"

/-- A signed-in user. A session that has ended has no token any more. -/
structure Session where
  user : String
  token? : Option String
  deriving DecidableEq, Repr, Inhabited

namespace Session

/-- A session with a token. -/
def start (user token : String) : Session := ⟨user, some token⟩

/-- Whether the session has a token. -/
def isActive (session : Session) : Bool := session.token?.isSome

/-- The token, while there is one. -/
def token (session : Session) : Except TransportError String :=
  match session.token? with
  | some token => .ok token
  | none => .error .unauthenticated

/-- Ends the session. -/
def finish (session : Session) : Session := { session with token? := none }

end Session

end CaseForm

import CaseForm.Form.Request
import CaseForm.Form.Session
import CaseForm.Layout.View

/-!
Surroundings: the server and the user, as a form meets them.

What they will answer is given ahead, in one queue for each kind of question, and everything that
the form asks of them is kept in order. Any behaviour of a server and a user during a run is some
filling of the queues. With an empty queue the server does not reply, except that it saves, and the
user cancels.
-/

namespace CaseForm

/-- How grave a notification is. -/
inductive Level where
  | info
  | error
  deriving DecidableEq, Repr, Inhabited

/-- A message to the user. -/
structure Notification where
  level : Level
  message : String
  deriving DecidableEq, Repr, Inhabited

/-- Something that a form asked of its surroundings. -/
inductive Call where
  /-- A request to the server, with the session that it was made in. -/
  | server (session : Session) (request : Request)
  | notify (notification : Notification)
  | prompt (message default : String)
  | openWindow (url name options : String)
  | script (name : String) (arguments : List Json)
  deriving Repr, Inhabited

/-- What comes from the server. -/
abbrev Reply (α : Type) := Except TransportError α

/-- The answers to come, and what has been asked so far. -/
structure Surroundings where
  views : List (Reply View) := []
  refreshes : List (Reply View) := []
  submissions : List (Reply SubmitResponse) := []
  saves : List (Reply Unit) := []
  creations : List (Reply CreateResponse) := []
  /-- What the user enters; none where a prompt is cancelled. -/
  prompts : List (Option String) := []
  calls : List Call := []

/-- The answer where none is given. -/
def noReply : TransportError := .network "no reply"

namespace Surroundings

/-- Takes the next view for an action. -/
def takeView (s : Surroundings) : Reply View × Surroundings :=
  match s.views with
  | [] => (.error noReply, s)
  | reply :: rest => (reply, { s with views := rest })

/-- Takes the next answer to a refresh. -/
def takeRefresh (s : Surroundings) : Reply View × Surroundings :=
  match s.refreshes with
  | [] => (.error noReply, s)
  | reply :: rest => (reply, { s with refreshes := rest })

/-- Takes the next answer to a submission. -/
def takeSubmission (s : Surroundings) : Reply SubmitResponse × Surroundings :=
  match s.submissions with
  | [] => (.error noReply, s)
  | reply :: rest => (reply, { s with submissions := rest })

/-- Takes the next answer to a save, which succeeds where none is given. -/
def takeSave (s : Surroundings) : Reply Unit × Surroundings :=
  match s.saves with
  | [] => (.ok (), s)
  | reply :: rest => (reply, { s with saves := rest })

/-- Takes the next answer to the creation of a case. -/
def takeCreation (s : Surroundings) : Reply CreateResponse × Surroundings :=
  match s.creations with
  | [] => (.error noReply, s)
  | reply :: rest => (reply, { s with creations := rest })

/-- Takes what the user enters next. -/
def takePrompt (s : Surroundings) : Option String × Surroundings :=
  match s.prompts with
  | [] => (none, s)
  | entry :: rest => (entry, { s with prompts := rest })

/-- Keeps a call. -/
def record (s : Surroundings) (call : Call) : Surroundings := { s with calls := s.calls ++ [call] }

end Surroundings

end CaseForm

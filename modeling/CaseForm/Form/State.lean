import CaseForm.Calendar.Print
import CaseForm.Document.Write
import CaseForm.Form.Surroundings
import CaseForm.Form.Ticket
import CaseForm.Handler.Script
import CaseForm.Layout.Seed
import CaseForm.Layout.ViewCodec
import CaseForm.Render.View

/-!
Forms: a view that is being worked on, with the values edited so far.

An operation runs in a situation, which is a form in its surroundings. It may fail, and what it has
changed up to then stays changed; so what a failed operation leaves behind is part of what is said
about it.
-/

namespace CaseForm

/-- Why an operation on a form fails. -/
inductive FormError where
  | reference (cause : ReferenceError)
  | action (cause : ActionError)
  | transport (cause : TransportError)
  | noActions (assignmentId : String)
  /-- The form has been closed. -/
  | disposed
  | repeatBusy (place : String)
  | duplicateGroupKey (place key : String)
  | emptyGroupKey (place : String)
  | noAssignment
  /-- A date that the storage pattern cannot write. -/
  | unwritableDate (cause : UnwritableDate)
  deriving DecidableEq, Repr

/-- The wording of an error. -/
def FormError.message : FormError → String
  | .reference cause => cause.message
  | .action cause => cause.message
  | .transport cause => cause.message
  | .noActions assignmentId =>
    "Assignment '" ++ assignmentId ++ "' does not have any actions configured"
  | .disposed => "The form has been closed"
  | .repeatBusy place => "A row operation on '" ++ place ++ "' is already in flight"
  | .duplicateGroupKey place key =>
    "Group '" ++ place ++ "' already contains the key '" ++ key ++ "'"
  | .emptyGroupKey place => "A group key for '" ++ place ++ "' must not be empty"
  | .noAssignment => "The form is not bound to an assignment"
  | .unwritableDate cause =>
    "The pattern '" ++ cause.pattern ++ "' cannot write the date " ++ cause.date.text

/-- What a form is bound to. -/
inductive FormSource where
  /-- The view of an action on an assignment. -/
  | assignment (context : AssignmentContext) (view : View)
  /-- A page, which may belong to a case. -/
  | page (caseId : Option String) (page : View)

/-- A form at work. -/
structure Form where
  renderer : Renderer
  scripts : Scripts
  session : Session
  assignment : Option AssignmentContext
  /-- The case of the source; the assignment's case counts before it. -/
  sourceCase : Option String
  view : View
  values : Table Json
  errors : ValidationErrors
  /-- The references of repeating structures with a change on its way. -/
  loading : TextSet
  tickets : Tickets
  /-- Whether the form is still open. -/
  alive : Bool

namespace Form

/-- How the form reads references. -/
def addressing (form : Form) : Addressing := .ofSettings form.renderer.settings

/-- The action that the form submits against. -/
def activeAction (form : Form) : Option String := form.assignment.map (·.actionId)

/-- The case that the form works on. -/
def caseId (form : Form) : Option String :=
  match form.assignment with
  | some context => some context.caseId
  | none => form.sourceCase

/-- The submission document of the edited values. -/
def document (form : Form) : Except ReferenceError Json := form.addressing.nest form.values

/-- The form as it looks at a moment. -/
def render (form : Form) (now : Moment) : Except UnwritableDate (Option Node) :=
  form.renderer.view form.view ⟨form.values, form.errors, form.loading, now⟩

/-- Binds a source: its assignment, its case and its view. -/
def bindSource (form : Form) (source : FormSource) : Form :=
  match source with
  | .assignment context view =>
    { form with assignment := some context, sourceCase := some context.caseId, view := view }
  | .page caseId page => { form with assignment := none, sourceCase := caseId, view := page }

/-- Shows a view and begins anew with the values that it brings along. -/
def restart (form : Form) (view : View) : Form := { form with view := view, values := view.seed }

/-- Shows a view again: the edited values stay if it is the same view. -/
def revisit (form : Form) (view : View) : Form :=
  if view.same form.view then { form with view := view } else form.restart view

/-- A new form on a source. -/
def build (renderer : Renderer) (scripts : Scripts) (session : Session) (source : FormSource) :
    Form :=
  let blank : Form :=
    { renderer := renderer
      scripts := scripts
      session := session
      assignment := none
      sourceCase := none
      view := ⟨"", true, [], none⟩
      values := .empty
      errors := .empty
      loading := .empty
      tickets := {}
      alive := true }
  let bound := blank.bindSource source
  bound.restart bound.view

end Form

/-- A form in its surroundings. -/
structure Situation where
  form : Form
  surroundings : Surroundings

/-- An operation on a form in its surroundings. -/
abbrev Run := EStateM FormError Situation

namespace Run

/-- The form as it is. -/
def form : Run Form := do return (← get).form

/-- Changes the form. -/
def changeForm (change : Form → Form) : Run Unit :=
  modify fun s => { s with form := change s.form }

/-- Keeps a call. -/
def record (call : Call) : Run Unit :=
  modify fun s => { s with surroundings := s.surroundings.record call }

/-- Tells the user something. -/
def notify (level : Level) (message : String) : Run Unit := record (.notify ⟨level, message⟩)

/-- Takes an answer from the surroundings. -/
def take {α : Type} (next : Surroundings → α × Surroundings) : Run α :=
  modifyGet fun s =>
    let (answer, rest) := next s.surroundings
    (answer, { s with surroundings := rest })

/-- Goes on only with an open form. -/
def ensureAlive : Run Unit := do
  unless (← form).alive do throw .disposed

/-- The assignment that the form is bound to. -/
def boundAssignment : Run AssignmentContext := do
  match (← form).assignment with
  | some context => return context
  | none => throw .noAssignment

/-- Goes on only with the answer of a computation on references. -/
def ofReference {α : Type} : Except ReferenceError α → Run α
  | .ok value => pure value
  | .error error => throw (.reference error)

/-- The submission document. -/
def nestedDocument : Run Json := do ofReference (← form).document

/-- Issues a ticket, which supersedes all requests before it. -/
def issueTicket : Run Ticket :=
  modifyGet fun s =>
    let (ticket, tickets) := s.form.tickets.issue
    (ticket, { s with form := { s.form with tickets := tickets } })

/-- Forgets all validation messages. -/
def clearErrors : Run Unit := changeForm fun form => { form with errors := .empty }

/-- Sends a request to the server, unless the session has ended. -/
def exchange {α : Type} (request : Request) (next : Surroundings → Reply α × Surroundings) :
    Run (Reply α) := do
  let session := (← form).session
  if session.isActive then
    record (.server session request)
    take next
  else return .error .unauthenticated

/-- Takes note of a failed exchange: validation messages go to their fields, and the user is told
of everything else. -/
def report (error : TransportError) : Run Unit :=
  match error with
  | .validation payload =>
    changeForm fun form => { form with errors := form.errors.merge payload }
  | error => notify .error error.message

/-- Goes on only with the server's answer. -/
def expect {α : Type} (reply : Reply α) : Run α :=
  match reply with
  | .ok value => pure value
  | .error error => do
    report error
    throw (.transport error)

end Run

end CaseForm

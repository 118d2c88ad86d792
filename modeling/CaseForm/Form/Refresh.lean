import CaseForm.Document.Blank
import CaseForm.Form.State
import CaseForm.Text.Blank

/-!
Refreshes: the view again, with the values as they are edited.

A refresh is prepared, sent, and applied. Every request that is prepared takes a ticket, and only
the answer to the latest is applied; an answer to an earlier one, or to a closed form, changes
nothing but the loading mark of its own repeating structure. Rows are added and removed in the
outgoing document alone, and the answer brings them into the form.
-/

namespace CaseForm

/-- A refresh that has been prepared, and the repeating structure whose mark it holds. -/
structure PreparedRefresh where
  ticket : Ticket
  request : ActionRequest
  container : Option String
  deriving Repr, Inhabited

/-- How a refresh ended, as the form sees it. -/
inductive RefreshOutcome where
  | applied
  /-- A later request has been prepared in the meantime. -/
  | superseded
  /-- The form has been closed in the meantime. -/
  | disposed
  /-- The user cancelled before anything was sent. -/
  | cancelled
  deriving DecidableEq, Repr, Inhabited

/-- What happens to the rows of a repeating structure. -/
inductive RepeatOperation where
  | add
  | remove
  deriving DecidableEq, Repr, Inhabited

/-- The question for the key of a group. -/
def RepeatOperation.question : RepeatOperation → String
  | .add => "Please enter a name for the group."
  | .remove => "Please enter the name of the group to be deleted."

namespace Form

/-- Writes pairs into a document, with their values resolved against the edited values. -/
def writePairs (form : Form) : List SetValuePair → Json → Except ReferenceError Json
  | [], document => .ok document
  | pair :: pairs, document =>
    let value := resolveProperty form.values pair.value
    match form.addressing.write (expandRelative pair.name) value document with
    | (_, .error error) => .error error
    | (next, .ok ()) => form.writePairs pairs next

end Form

namespace Run

/-- The request of an action with a document. -/
def actionRequest (context : AssignmentContext) (content : Json) : ActionRequest :=
  ⟨context.caseId, context.assignmentId, context.actionId, content⟩

/-- Prepares a refresh. The pairs go into the outgoing document only. -/
def prepareRefresh (pairs : List SetValuePair) : Run PreparedRefresh := do
  ensureAlive
  let context ← boundAssignment
  let document ← nestedDocument
  let content ← ofReference ((← form).writePairs pairs document)
  clearErrors
  let ticket ← issueTicket
  return ⟨ticket, actionRequest context content, none⟩

/-- Applies the answer to a prepared refresh. -/
def applyRefresh (prepared : PreparedRefresh) (reply : Reply View) : Run RefreshOutcome := do
  match prepared.container with
  | some container =>
    changeForm fun form => { form with loading := form.loading.erase container }
  | none => pure ()
  let form ← form
  if !form.alive then return .disposed
  if !form.tickets.isLatest prepared.ticket then return .superseded
  let view ← expect reply
  changeForm (·.revisit view)
  return .applied

/-- Sends a prepared refresh. -/
def sendRefresh (prepared : PreparedRefresh) : Run (Reply View) :=
  exchange (.refresh prepared.request) Surroundings.takeRefresh

/-- Prepares, sends and applies a refresh. -/
def refresh (pairs : List SetValuePair) : Run RefreshOutcome := do
  let prepared ← prepareRefresh pairs
  let reply ← sendRefresh prepared
  applyRefresh prepared reply

/-! ### Repeating structures -/

/-- The key that the user enters, without blanks around it; none where the prompt is cancelled. -/
def askForKey (reference : String) (operation : RepeatOperation) : Run (Option String) := do
  record (.prompt operation.question "")
  match ← take Surroundings.takePrompt with
  | none => return none
  | some entry =>
    let key := Text.trim entry
    if key = "" then throw (.emptyGroupKey reference) else return some key

/-- The rows of a list after an operation. A list keeps its only row. -/
def editRows (operation : RepeatOperation) (rows : List Json) : List Json :=
  match operation with
  | .add => Repeated.pushBlank rows
  | .remove => (Repeated.popRow rows).1

/-- The entries of a group after an operation on a key. A key that is there cannot be added. -/
def editEntries (reference : String) (operation : RepeatOperation) (key : String)
    (entries : Entries Json) : Run (Entries Json) :=
  match operation with
  | .add =>
    match Repeated.insertBlank key entries with
    | (next, true) => pure next
    | (_, false) => throw (.duplicateGroupKey reference key)
  | .remove => pure (Repeated.removeEntry key entries).1

/-- A repeating structure after an operation; none where the user cancels. -/
def editRepeated (reference : String) (operation : RepeatOperation) :
    Repeated → Run (Option Repeated)
  | .rows rows => return some (.rows (editRows operation rows))
  | .entries entries => do
    match ← askForKey reference operation with
    | none => return none
    | some key => return some (.entries (← editEntries reference operation key entries))

/-- Prepares a refresh with a row added or removed, and marks the repeating structure; none where
the user cancels. -/
def prepareRepeat (reference : String) (kind : RepeatKind) (operation : RepeatOperation) :
    Run (Option PreparedRefresh) := do
  ensureAlive
  if (← form).loading.contains reference then throw (.repeatBusy reference)
  let context ← boundAssignment
  let document ← nestedDocument
  let addressing := (← form).addressing
  let (document, located) := addressing.locate reference kind document
  let repeated ← ofReference located
  match ← editRepeated reference operation repeated with
  | none => return none
  | some edited =>
    let (content, _) := addressing.edit reference kind (fun _ => (edited, ())) document
    changeForm fun form => { form with loading := form.loading.insert reference () }
    clearErrors
    let ticket ← issueTicket
    return some ⟨ticket, actionRequest context content, some reference⟩

/-- Adds or removes a row by way of the server. -/
def editRepeat (reference : String) (kind : RepeatKind) (operation : RepeatOperation) :
    Run RefreshOutcome := do
  match ← prepareRepeat reference kind operation with
  | none => return .cancelled
  | some prepared =>
    let reply ← sendRefresh prepared
    applyRefresh prepared reply

end Run

end CaseForm

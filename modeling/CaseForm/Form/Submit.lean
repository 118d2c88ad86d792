import CaseForm.Form.Refresh

/-!
Submitting, saving and creating: the round trips that end a piece of work.
-/

namespace CaseForm

/-- Where a submission leads. -/
inductive SubmitOutcome where
  /-- The assignment goes on with another action, whose view is loaded. -/
  | actionChanged (actionId : String)
  /-- The case goes on with another assignment. -/
  | nextAssignment (assignmentId : String)
  /-- There is no further assignment; a page may be shown. -/
  | completed (nextPageId : Option String)
  deriving DecidableEq, Repr, Inhabited

namespace Run

/-- Makes an action the active one. -/
def setActiveAction (actionId : String) : Run Unit := do
  let context ← boundAssignment
  changeForm fun form => { form with assignment := some { context with actionId := actionId } }

/-- Loads the view of an action and makes it the active one. -/
def loadAction (actionId : String) : Run Unit := do
  let context ← boundAssignment
  let _ ← issueTicket
  let reply ← exchange (.view context.assignmentId actionId) Surroundings.takeView
  let view ← expect reply
  ensureAlive
  setActiveAction actionId
  changeForm (·.restart view)

/-- Goes on with another action of the assignment. -/
def performAction (actionId : String) : Run Unit := do
  ensureAlive
  loadAction actionId

/-- Follows the server's word on a submission. -/
def follow (context : AssignmentContext) (response : SubmitResponse) : Run SubmitOutcome := do
  match response.nextAssignmentId with
  | none => return .completed response.nextPageId
  | some next =>
    if next = context.assignmentId then
      let actionId := response.nextActionId.getD context.actionId
      loadAction actionId
      return .actionChanged actionId
    else return .nextAssignment next

/-- Submits the edited values to the active action. -/
def submit : Run SubmitOutcome := do
  ensureAlive
  let context ← boundAssignment
  let content ← nestedDocument
  clearErrors
  let _ ← issueTicket
  let reply ← exchange (.submit (actionRequest context content)) Surroundings.takeSubmission
  let response ← expect reply
  ensureAlive
  follow context response

/-- Saves the edited values to the case, and tells the user. -/
def save : Run Unit := do
  ensureAlive
  let form ← form
  match form.caseId with
  | none => throw .noAssignment
  | some caseId =>
    let content ← nestedDocument
    let etag := form.assignment.bind (·.etag)
    let reply ← exchange (.save ⟨caseId, etag, content⟩) Surroundings.takeSave
    expect reply
    notify .info "Case saved."

/-- Creates a case of a type from the edited values. -/
def createCase (caseTypeId : String) : Run CreateResponse := do
  ensureAlive
  let content ← nestedDocument
  let reply ← exchange (.create ⟨caseTypeId, content⟩) Surroundings.takeCreation
  expect reply

end Run

end CaseForm

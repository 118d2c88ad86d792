import CaseForm.Form.Submit

/-!
Edits and handlers: what the user does to the fields of a form.
-/

namespace CaseForm

/-- What a control hands over. -/
inductive FieldInput where
  | text (entry : String)
  | checked (on : Bool)
  | date (day : Date)
  /-- One of the options offered. -/
  | selection (key : String)
  deriving DecidableEq, Repr

/-- The value to be stored; dates are written by a pattern. -/
def FieldInput.value (pattern : String) : FieldInput → Except UnwritableDate Json
  | .text entry | .selection entry => .ok (.str entry)
  | .checked on => .ok (.bool on)
  | .date day => (day.write pattern).map .str

namespace Form

/-- The pairs as references and values, all resolved against the values as they are. -/
def resolvePairs (form : Form) (pairs : List SetValuePair) : List (String × Json) :=
  pairs.map fun pair => (expandRelative pair.name, resolveProperty form.values pair.value)

/-- Writes pairs into the edited values. -/
def setValues (form : Form) (pairs : List SetValuePair) : Form :=
  { form with values := form.values.extend (form.resolvePairs pairs) }

/-- The URL of a property expression, with the default scheme where it does not begin with
`http`. -/
def url (form : Form) (base : Json) : String :=
  let url := resolveText form.values base
  if "http".toList.isPrefixOf url.toList then url
  else form.renderer.settings.defaultUrlScheme ++ url

end Form

namespace Run

/-- Writes an edit into the edited values. -/
def edit (reference : String) (input : FieldInput) : Run Unit := do
  ensureAlive
  match input.value (← form).renderer.settings.dateFormat with
  | .error error => throw (.unwritableDate error)
  | .ok value =>
    changeForm fun form => { form with values := form.values.insert reference value }

/-- Calls a script with resolved arguments, and tells the user where it fails. -/
def runScript (name : String) (parameters : List Json) : Run Unit := do
  let form ← form
  let arguments := parameters.map (resolveProperty form.values)
  if form.scripts.contains name then record (.script name arguments)
  match form.scripts.invoke name arguments with
  | .ok () => return ()
  | .error error => do
    notify .error error.message
    throw (.action error)

/-- Runs one step of a handler. -/
def runStep : Step → Run Unit
  | .preventDefault => return ()
  | .setValue pairs => changeForm (·.setValues pairs)
  | .refresh pairs => do
    let _ ← refresh pairs
  | .performAction actionName => performAction actionName
  | .runScript name parameters => runScript name parameters
  | .openUrl base name options => do
    record (.openWindow ((← form).url base) name options)

/-- Runs steps one after another, up to the first that fails. -/
def runSteps : List Step → Run Unit
  | [] => return ()
  | step :: steps => do
    runStep step
    runSteps steps

/-- Runs a handler. -/
def dispatch (handler : Handler) : Run Unit := do
  ensureAlive
  runSteps handler.steps

/-- Writes an edit and then runs a handler, which sees it. -/
def changeAndDispatch (reference : String) (input : FieldInput) (handler : Handler) :
    Run Unit := do
  edit reference input
  dispatch handler

/-- Binds another source. The edited values begin anew, and all requests are superseded. -/
def rebind (source : FormSource) : Run Unit := do
  ensureAlive
  changeForm (·.bindSource source)
  let _ ← issueTicket
  clearErrors
  changeForm fun form => form.restart form.view

/-- Closes the form. -/
def cancel : Run Unit :=
  changeForm fun form =>
    if form.alive then { form with alive := false, loading := .empty } else form

/-- Ends the session of the form. -/
def endSession : Run Unit :=
  changeForm fun form => { form with session := form.session.finish }

end Run

end CaseForm

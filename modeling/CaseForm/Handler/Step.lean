import CaseForm.Handler.Property
import CaseForm.Layout.Binding

/-!
Steps: what a handler does, one after another, when its field fires.
-/

namespace CaseForm

/-- Why a step cannot be made or run. -/
inductive ActionError where
  | unregisteredScript (name : String)
  | scriptFailed (name message : String)
  | missingParameter (action parameter : String)
  deriving DecidableEq, Repr

/-- The wording of an error. -/
def ActionError.message : ActionError → String
  | .unregisteredScript name => "No script is registered under the name '" ++ name ++ "'"
  | .scriptFailed name message => "Script '" ++ name ++ "' failed: " ++ message
  | .missingParameter action parameter =>
    "Action '" ++ action ++ "' is missing its '" ++ parameter ++ "' parameter"

/-- One step of a handler. -/
inductive Step where
  /-- Keeps the surroundings from doing what they would do by themselves. -/
  | preventDefault
  /-- Writes pairs into the edited values. -/
  | setValue (pairs : List SetValuePair)
  /-- Posts the edited values; the pairs go into the posted document only. -/
  | refresh (setValues : List SetValuePair)
  /-- Loads the view of another action. -/
  | performAction (actionName : String)
  /-- Calls a script; the arguments are resolved when the step runs. -/
  | runScript (functionName : String) (parameters : List Json)
  /-- Opens a window; its URL is resolved when the step runs. -/
  | openUrl (urlBase : Json) (windowName windowOptions : String)
  deriving Repr, Inhabited

namespace Step

/-- Whether running the step takes a round trip to the server. -/
def isNetwork : Step → Bool
  | .refresh _ | .performAction _ => true
  | _ => false

/-- Whether the step is a refresh. -/
def isRefresh : Step → Bool
  | .refresh _ => true
  | _ => false

/-- Whether the step only keeps the surroundings still. -/
def isPreventDefault : Step → Bool
  | .preventDefault => true
  | _ => false

/-- The written form of pairs. -/
def pairsJson (pairs : List SetValuePair) : Json :=
  .arr (pairs.map SetValuePair.record.codec.write)

/-- The written form of a step. -/
def toJson : Step → Json
  | .preventDefault => .obj [("step", .str "preventDefault")]
  | .setValue pairs => .obj [("step", .str "setValue"), ("pairs", pairsJson pairs)]
  | .refresh setValues => .obj [("step", .str "refresh"), ("set_values", pairsJson setValues)]
  | .performAction actionName =>
    .obj [("step", .str "performAction"), ("action_name", .str actionName)]
  | .runScript functionName parameters =>
    .obj [("step", .str "runScript"), ("function_name", .str functionName),
      ("parameters", .arr parameters)]
  | .openUrl urlBase windowName windowOptions =>
    .obj [("step", .str "openUrl"), ("url_base", urlBase), ("window_name", .str windowName),
      ("window_options", .str windowOptions)]

end Step

/-- A text that is there and not empty. -/
def nonEmpty? (text : Option String) : Option String := text.filter (· ≠ "")

/-- The step that an action makes by itself. -/
def Action.step (action : Action) : Except ActionError Step :=
  let given := action.parameters
  let missing (parameter : String) : Except ActionError Step :=
    .error (.missingParameter action.kind.tag parameter)
  match action.kind with
  | .setValue => .ok (.setValue given.setValuePairs)
  | .postValue | .refresh => .ok (.refresh [])
  | .performAction =>
    match nonEmpty? given.actionName with
    | some name => .ok (.performAction name)
    | none => missing "actionName"
  | .runScript =>
    match nonEmpty? given.functionName with
    | some name => .ok (.runScript name (given.functionParameters.map (·.value)))
    | none => missing "functionName"
  | .openUrl =>
    if given.urlBase.isNull then missing "urlBase"
    else .ok (.openUrl given.urlBase (given.windowName.getD "") (given.windowOptions.getD ""))
  | .other _ => missing "action"

end CaseForm

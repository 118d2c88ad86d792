import CaseForm.Handler.Step
import CaseForm.Layout.Field

/-!
Handlers: all that a field declares, composed into one sequence of steps.

The actions come in the order in which they are declared, with two exceptions. Only the first
posting action makes a refresh. And where a field declares both a refresh and values to set, the
values travel in the refresh, so what is posted does not depend on when the edited values change.
Actions that lack a parameter are left out.
-/

namespace CaseForm

/-- The steps that a field runs, and the events that the contributing bindings name. -/
structure Handler where
  steps : List Step
  events : List String
  deriving Repr, Inhabited

namespace Handler

/-- The handler without actions. -/
def base : Handler := ⟨[.preventDefault], []⟩

/-- Whether no action contributes a step. -/
def isInert (handler : Handler) : Bool := handler.steps.all Step.isPreventDefault

/-- The refresh of the handler, if it has one. -/
def refreshStep? (handler : Handler) : Option Step := handler.steps.find? Step.isRefresh

/-- The written form of a handler. -/
def toJson (handler : Handler) : Json :=
  .obj [("steps", .arr (handler.steps.map Step.toJson)),
    ("events", .arr (handler.events.map Json.str))]

end Handler

/-- The steps of actions. `threaded` are the pairs that travel in the refresh, if they do;
`posted` says whether there has been a refresh. -/
def composeSteps (threaded : Option (List SetValuePair)) : Bool → List Action → List Step
  | _, [] => []
  | posted, action :: actions =>
    match action.kind with
    | .setValue =>
      if threaded.isSome then composeSteps threaded posted actions
      else .setValue action.parameters.setValuePairs :: composeSteps threaded posted actions
    | .postValue | .refresh =>
      if posted then composeSteps threaded posted actions
      else .refresh (threaded.getD []) :: composeSteps threaded true actions
    | _ =>
      match action.step with
      | .ok step => step :: composeSteps threaded posted actions
      | .error _ => composeSteps threaded posted actions

namespace ActionSet

/-- The actions of a set that handlers are composed of. -/
def supported (set : ActionSet) : List Action := set.actions.filter (·.kind.isSupported)

/-- The events of a set, if any of its actions counts. -/
def firing (set : ActionSet) : List String :=
  if set.supported.isEmpty then [] else set.events.map (·.event)

end ActionSet

namespace Control

/-- The actions of all bindings that handlers are composed of. -/
def supportedActions (control : Control) : List Action :=
  control.actionSets.flatMap ActionSet.supported

/-- The pairs of all declared values to set. -/
def declaredPairs (control : Control) : List SetValuePair :=
  (control.supportedActions.filter (·.kind == .setValue)).flatMap (·.parameters.setValuePairs)

/-- The pairs that travel in the refresh: all of them, where a refresh is declared. -/
def threadedPairs? (control : Control) : Option (List SetValuePair) :=
  let pairs := control.declaredPairs
  if control.supportedActions.any (·.kind == .refresh) && !pairs.isEmpty then some pairs else none

/-- The handler of a control's bindings. -/
def handler (control : Control) : Handler :=
  { steps := .preventDefault ::
      composeSteps control.threadedPairs? false control.supportedActions
    events := (control.actionSets.flatMap ActionSet.firing).eraseDups }

end Control

/-- The handler of a field. -/
def Field.handler (field : Field) : Handler := field.control.handler

end CaseForm

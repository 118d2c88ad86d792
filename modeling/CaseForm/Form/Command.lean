import CaseForm.Form.Opening

/-!
Commands: everything that can be asked of a form, as data.

A run of a form is a list of commands. Each has a result, and a failed one leaves the situation for
the next as it was when it failed.
-/

namespace CaseForm

/-- Something asked of a form. -/
inductive Command where
  | edit (reference : String) (input : FieldInput)
  | dispatch (handler : Handler)
  | changeAndDispatch (reference : String) (input : FieldInput) (handler : Handler)
  | refresh (pairs : List SetValuePair)
  | prepareRefresh (pairs : List SetValuePair)
  | prepareRepeat (reference : String) (kind : RepeatKind) (operation : RepeatOperation)
  | applyRefresh (prepared : PreparedRefresh) (reply : Reply View)
  | editRepeat (reference : String) (kind : RepeatKind) (operation : RepeatOperation)
  | submit
  | save
  | createCase (caseTypeId : String)
  | performAction (actionId : String)
  | setActiveAction (actionId : String)
  | rebind (source : FormSource)
  | cancel
  | endSession

/-- What a command answers. -/
inductive Outcome where
  | done
  | refreshed (outcome : RefreshOutcome)
  /-- A prepared refresh; none where the user cancelled. -/
  | prepared (refresh : Option PreparedRefresh)
  | submitted (outcome : SubmitOutcome)
  | created (response : CreateResponse)
  deriving Repr, Inhabited

namespace Command

/-- Runs a command. -/
def perform : Command → Run Outcome
  | .edit reference input => do Run.edit reference input; return .done
  | .dispatch handler => do Run.dispatch handler; return .done
  | .changeAndDispatch reference input handler => do
    Run.changeAndDispatch reference input handler
    return .done
  | .refresh pairs => return .refreshed (← Run.refresh pairs)
  | .prepareRefresh pairs => return .prepared (some (← Run.prepareRefresh pairs))
  | .prepareRepeat reference kind operation =>
    return .prepared (← Run.prepareRepeat reference kind operation)
  | .applyRefresh prepared reply => return .refreshed (← Run.applyRefresh prepared reply)
  | .editRepeat reference kind operation =>
    return .refreshed (← Run.editRepeat reference kind operation)
  | .submit => return .submitted (← Run.submit)
  | .save => do Run.save; return .done
  | .createCase caseTypeId => return .created (← Run.createCase caseTypeId)
  | .performAction actionId => do Run.performAction actionId; return .done
  | .setActiveAction actionId => do Run.setActiveAction actionId; return .done
  | .rebind source => do Run.rebind source; return .done
  | .cancel => do Run.cancel; return .done
  | .endSession => do Run.endSession; return .done

/-- The result of a command, and the situation that it leaves. -/
def step (command : Command) (situation : Situation) : Except FormError Outcome × Situation :=
  match command.perform situation with
  | .ok outcome next => (.ok outcome, next)
  | .error error next => (.error error, next)

/-- The results of commands one after another, and the situation that they leave. -/
def runAll : List Command → Situation → List (Except FormError Outcome) × Situation
  | [], situation => ([], situation)
  | command :: commands, situation =>
    let (result, next) := command.step situation
    let (results, last) := runAll commands next
    (result :: results, last)

end Command

end CaseForm

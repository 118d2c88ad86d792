import CaseForm.Form.Command
import CaseForm.Proofs.Form.Local

/-!
What an operation on a form leaves behind, whether it succeeds or fails.

A relation between situations is kept by an operation if it leads from every situation to the one
that the operation leaves (`Run.Keeps`). The less a relation looks at, the more operations keep it
on that ground alone:

* talk with the surroundings (`Run.Calm`): asking, looking and failing;
* validation messages and the last ticket as well (`Run.Frame`): preparing and sending a refresh,
  saving and creating a case;
* loading marks too (`Run.MarkFrame`): preparing and answering a row operation;
* the view and the edited values besides (`Run.WorkFrame`): edits, refreshes, submissions and
  handlers, as far as the loading of an action keeps it.

What else an operation changes is left to the relation at hand. Binding a form and closing it do
nothing to a form that is closed, so the relation only has to say what they do to an open one
(`Run.Calm.rebind`, `Run.Calm.cancel`).
-/

namespace CaseForm

/-- The form on another source, which it shows from the beginning. -/
def Form.rebound (source : FormSource) (form : Form) : Form :=
  { (form.bindSource source).restart (form.bindSource source).view with
    tickets := form.tickets.issue.2
    errors := .empty }

/-- The form once it has been closed. -/
def Form.shut (form : Form) : Form := { form with alive := false, loading := .empty }

namespace Run

variable {α β : Type} {R : Situation → Situation → Prop}

/-- The situation that an operation leaves. -/
def after (run : Run α) (s : Situation) : Situation :=
  match run s with
  | .ok _ next => next
  | .error _ next => next

/-- An operation keeps a relation if it leads to what the operation leaves. -/
def Keeps (R : Situation → Situation → Prop) (run : Run α) : Prop := ∀ s, R s (run.after s)

theorem after_of_ok {run : Run α} {s s' : Situation} {value : α} (ok : run s = .ok value s') :
    run.after s = s' := by
  rw [after, ok]

theorem after_of_error {run : Run α} {s s' : Situation} {error : FormError}
    (failed : run s = .error error s') : run.after s = s' := by
  rw [after, failed]

theorem ensureAlive_of_alive {s : Situation} (alive : s.form.alive = true) :
    ensureAlive s = .ok () s := ensureAlive_eq_ok_iff.2 ⟨alive, rfl⟩

theorem ensureAlive_of_closed {s : Situation} (closed : s.form.alive = false) :
    ensureAlive s = .error .disposed s := by
  change (if s.form.alive then _ else _ : Run Unit) s = _
  rw [closed]
  rfl

theorem boundAssignment_of_none {s : Situation} (unbound : s.form.assignment = none) :
    boundAssignment s = .error .noAssignment s := by
  rw [boundAssignment, bind_of_ok (form_eq_ok_iff.2 ⟨rfl, rfl⟩), unbound]
  rfl

/-- What two operations one after another leave is what the second leaves, or the first where it
fails. -/
theorem after_bind (first : Run α) (next : α → Run β) (s : Situation) :
    (first >>= next).after s =
      match first s with
      | .ok value middle => (next value).after middle
      | .error _ middle => middle := by
  simp only [after, bind, EStateM.bind]
  cases first s <;> rfl

/-- A value that is made of the result changes nothing. -/
theorem after_bind_pure (run : Run α) (value : α → β) (s : Situation) :
    (run >>= fun result => pure (value result)).after s = run.after s := by
  rw [after_bind, after]
  cases run s <;> rfl

/-- What happens on this side is quiet, whether it succeeds or fails. -/
theorem Local.quiet_after {run : Run α} (here : Local run) (s : Situation) :
    Quiet s (run.after s) := by
  have ran := here s
  rw [after]
  cases result : run s <;> rw [result] at ran
  · exact ran
  · exact ran.2

/-- The relation can be composed, and it admits talk with the surroundings in the session of the
form. -/
structure Calm (R : Situation → Situation → Prop) : Prop where
  refl : ∀ s, R s s
  trans : ∀ {a b c}, R a b → R b c → R a c
  surroundings : ∀ s next, s.surroundings.Talk s.form.session next →
    R s { s with surroundings := next }

/-- Besides, it does not look at validation messages, and it admits new tickets. -/
structure Frame (R : Situation → Situation → Prop) : Prop extends Calm R where
  errors : ∀ s messages, R s { s with form := { s.form with errors := messages } }
  issued : ∀ s, R s { s with form := { s.form with tickets := s.form.tickets.issue.2 } }

/-- Nor does it look at loading marks. -/
structure MarkFrame (R : Situation → Situation → Prop) : Prop extends Frame R where
  loading : ∀ s marks, R s { s with form := { s.form with loading := marks } }

namespace Calm

variable (calm : Calm R)

include calm

/-- What comes after an operation need keep the relation only from what the operation leads to. -/
theorem bind_of_result {first : Run α} {next : α → Run β} (before : Keeps R first)
    (rest : ∀ s value middle, first s = .ok value middle →
      R middle ((next value).after middle)) : Keeps R (first >>= next) := by
  intro s
  have here := before s
  rw [after_bind]
  cases ran : first s with
  | ok value middle =>
    rw [after_of_ok ran] at here
    exact calm.trans here (rest s value middle ran)
  | error error middle =>
    rw [after_of_error ran] at here
    exact here

theorem bind {first : Run α} {next : α → Run β} (before : Keeps R first)
    (rest : ∀ value, Keeps R (next value)) : Keeps R (first >>= next) :=
  calm.bind_of_result before fun _ value middle _ => rest value middle

theorem pure (value : α) : Keeps R (Pure.pure value) := fun s => calm.refl s

theorem throw (error : FormError) : Keeps R (throw error : Run α) := fun s => calm.refl s

/-- Nothing that happens on this side matters to the relation. -/
theorem of_local {run : Run α} (here : Local run) : Keeps R run := by
  intro s
  have quiet := here.quiet_after s
  have same := calm.surroundings s (run.after s).surroundings quiet.talk
  rwa [← quiet.form] at same

theorem form : Keeps R Run.form := calm.of_local .form

theorem record {call : Call} (aside : call.request? = none) : Keeps R (Run.record call) :=
  fun s => calm.surroundings s _ (.of_made (.record s.surroundings aside))

theorem notify (level : Level) (message : String) : Keeps R (Run.notify level message) :=
  calm.record rfl

theorem ensureAlive : Keeps R Run.ensureAlive := calm.of_local .ensureAlive

theorem boundAssignment : Keeps R Run.boundAssignment := calm.of_local .boundAssignment

theorem ofReference (answer : Except ReferenceError α) : Keeps R (Run.ofReference answer) :=
  calm.of_local (.ofReference answer)

theorem nestedDocument : Keeps R Run.nestedDocument := calm.of_local .nestedDocument

theorem exchange (request : Request) {next : Surroundings → Reply α × Surroundings}
    (calls : ∀ surroundings, (next surroundings).2.calls = surroundings.calls) :
    Keeps R (Run.exchange request next) := calm.of_local (.exchange request calls)

theorem sendRefresh (prepared : PreparedRefresh) : Keeps R (Run.sendRefresh prepared) :=
  calm.of_local (.sendRefresh prepared)

theorem editRepeated (reference : String) (operation : RepeatOperation) (repeated : Repeated) :
    Keeps R (Run.editRepeated reference operation repeated) :=
  calm.of_local (.editRepeated reference operation repeated)

theorem runScript (name : String) (parameters : List Json) :
    Keeps R (Run.runScript name parameters) := by
  refine calm.bind calm.form fun found => ?_
  dsimp only
  cases found.scripts.invoke name (parameters.map (resolveProperty found.values)) with
  | ok result =>
    split
    · exact calm.bind (calm.record rfl) fun _ => calm.pure ()
    · exact calm.pure ()
  | error error =>
    have refused := calm.bind (calm.notify .error error.message) fun _ =>
      calm.throw (α := Unit) (.action error)
    split
    · exact calm.bind (calm.record rfl) fun _ => refused
    · exact refused

end Calm

namespace Frame

variable (frame : Frame R)

include frame

theorem issueTicket : Keeps R Run.issueTicket := fun s => frame.issued s

theorem clearErrors : Keeps R Run.clearErrors := fun s => frame.errors s _

theorem report (error : TransportError) : Keeps R (Run.report error) := by
  unfold Run.report
  split
  · exact fun s => frame.errors s _
  · exact frame.notify _ _

theorem expect (reply : Reply α) : Keeps R (Run.expect reply) := by
  cases reply with
  | ok value => exact frame.pure value
  | error error => exact frame.bind (frame.report error) fun _ => frame.throw _

theorem prepareRefresh (pairs : List SetValuePair) : Keeps R (Run.prepareRefresh pairs) := by
  refine frame.bind frame.ensureAlive fun _ => ?_
  refine frame.bind frame.boundAssignment fun context => ?_
  refine frame.bind frame.nestedDocument fun document => ?_
  refine frame.bind frame.form fun found => ?_
  refine frame.bind (frame.ofReference _) fun content => ?_
  refine frame.bind frame.clearErrors fun _ => ?_
  exact frame.bind frame.issueTicket fun ticket => frame.pure _

theorem save : Keeps R Run.save := by
  refine frame.bind frame.ensureAlive fun _ => frame.bind frame.form fun found => ?_
  split
  · exact frame.throw _
  · refine frame.bind frame.nestedDocument fun content => ?_
    refine frame.bind (frame.exchange _ Surroundings.calls_takeSave) fun reply => ?_
    exact frame.bind (frame.expect reply) fun _ => frame.notify _ _

theorem createCase (caseTypeId : String) : Keeps R (Run.createCase caseTypeId) := by
  refine frame.bind frame.ensureAlive fun _ => frame.bind frame.nestedDocument fun content => ?_
  refine frame.bind (frame.exchange _ Surroundings.calls_takeCreation) fun reply => ?_
  exact frame.expect reply

end Frame

theorem MarkFrame.prepareRepeat (frame : MarkFrame R) (reference : String) (kind : RepeatKind)
    (operation : RepeatOperation) : Keeps R (Run.prepareRepeat reference kind operation) := by
  refine frame.bind frame.ensureAlive fun _ => ?_
  refine frame.bind frame.form fun found => ?_
  dsimp only
  split
  · exact fun s => frame.refl s
  · refine frame.bind frame.boundAssignment fun context => ?_
    refine frame.bind frame.nestedDocument fun document => ?_
    refine frame.bind frame.form fun found => ?_
    refine frame.bind (frame.ofReference _) fun repeated => ?_
    refine frame.bind (frame.editRepeated reference operation repeated) fun edited => ?_
    cases edited with
    | none => exact frame.pure none
    | some edited =>
      refine frame.bind (fun s => frame.loading s _) fun _ => ?_
      refine frame.bind frame.clearErrors fun _ => ?_
      exact frame.bind frame.issueTicket fun ticket => frame.pure _

end Run

/-! ### Answers to refreshes -/

/-- The situation without the loading mark of a repeating structure, if there is one. -/
def Situation.release (container : Option String) (s : Situation) : Situation :=
  match container with
  | some container =>
    { s with form := { s.form with loading := s.form.loading.erase container } }
  | none => s

/-- The form has been closed, or a later ticket has been issued. -/
def Situation.isPast (s : Situation) (ticket : Ticket) : Bool :=
  !s.form.alive || !s.form.tickets.isLatest ticket

namespace Run

/-- What the answer to a ticket does once the loading mark is released. -/
def settle (ticket : Ticket) (reply : Reply View) : Run RefreshOutcome := do
  let form ← form
  if !form.alive then return .disposed
  if !form.tickets.isLatest ticket then return .superseded
  let view ← expect reply
  changeForm (·.revisit view)
  return .applied

theorem applyRefresh_eq (prepared : PreparedRefresh) (reply : Reply View) (s : Situation) :
    applyRefresh prepared reply s =
      settle prepared.ticket reply (s.release prepared.container) := by
  obtain ⟨ticket, request, container⟩ := prepared
  cases container <;> rfl

variable {s : Situation} {ticket : Ticket}

/-- A late answer is dropped. -/
theorem settle_of_isPast (past : s.isPast ticket = true) (reply : Reply View) :
    settle ticket reply s = .ok (if s.form.alive then .superseded else .disposed) s := by
  change (if !s.form.alive then _ else _ : Run RefreshOutcome) s = _
  cases alive : s.form.alive with
  | false => rfl
  | true =>
    have late : s.form.tickets.isLatest ticket = false := by
      simpa [Situation.isPast, alive] using past
    simp only [Bool.not_true, Bool.false_eq_true, if_false, late, Bool.not_false, if_true]
    rfl

/-- The answer to the latest ticket of an open form shows its view, or reports its error. -/
theorem settle_of_current (current : s.isPast ticket = false) (reply : Reply View) :
    settle ticket reply s =
      match reply with
      | .ok view => .ok .applied { s with form := s.form.revisit view }
      | .error error => .error (.transport error) ((report error).after s) := by
  obtain ⟨alive, latest⟩ : s.form.alive = true ∧ s.form.tickets.isLatest ticket = true := by
    simpa [Situation.isPast] using current
  change (if !s.form.alive then _ else _ : Run RefreshOutcome) s = _
  simp only [alive, latest, Bool.not_true, Bool.false_eq_true, if_false]
  cases reply with
  | ok view => rfl
  | error error => cases error <;> rfl

/-- What an answer settles keeps a relation if showing its view does. -/
theorem Frame.settle (frame : Frame R)
    (revisit : ∀ s view, R s { s with form := s.form.revisit view }) (ticket : Ticket)
    (reply : Reply View) : Keeps R (Run.settle ticket reply) := by
  intro s
  rw [after]
  cases past : s.isPast ticket with
  | true =>
    rw [settle_of_isPast past]
    exact frame.refl s
  | false =>
    rw [settle_of_current past]
    cases reply with
    | ok view => exact revisit s view
    | error error => exact frame.report error s

/-- A refresh holds no loading mark, so it does not matter whether the relation looks at them. -/
theorem Frame.refresh (frame : Frame R)
    (revisit : ∀ s view, R s { s with form := s.form.revisit view }) (pairs : List SetValuePair) :
    Keeps R (Run.refresh pairs) := by
  refine frame.bind_of_result (frame.prepareRefresh pairs) fun s prepared middle ready => ?_
  refine frame.bind (frame.sendRefresh prepared) (fun reply s => ?_) middle
  rw [after, applyRefresh_eq, container_of_prepareRefresh ready]
  exact frame.settle revisit prepared.ticket reply s

namespace MarkFrame

variable (frame : MarkFrame R)

include frame

theorem release (container : Option String) (s : Situation) : R s (s.release container) := by
  cases container with
  | none => exact frame.refl s
  | some container => exact frame.loading s _

theorem applyRefresh (revisit : ∀ s view, R s { s with form := s.form.revisit view })
    (prepared : PreparedRefresh) (reply : Reply View) :
    Keeps R (Run.applyRefresh prepared reply) := by
  intro s
  refine frame.trans (frame.release prepared.container s) ?_
  rw [after, applyRefresh_eq]
  exact frame.settle revisit prepared.ticket reply _

theorem editRepeat (revisit : ∀ s view, R s { s with form := s.form.revisit view })
    (reference : String) (kind : RepeatKind) (operation : RepeatOperation) :
    Keeps R (Run.editRepeat reference kind operation) := by
  refine frame.bind (frame.prepareRepeat reference kind operation) fun prepared => ?_
  cases prepared with
  | none => exact frame.pure _
  | some prepared =>
    refine frame.bind (frame.sendRefresh prepared) fun reply => ?_
    exact frame.applyRefresh revisit prepared reply

end MarkFrame

/-! ### Binding and closing -/

theorem rebind_of_alive (alive : s.form.alive = true) (source : FormSource) :
    rebind source s = .ok () { s with form := s.form.rebound source } := by
  rw [rebind, bind_of_ok (ensureAlive_of_alive alive)]
  cases source <;> rfl

theorem rebind_of_closed (closed : s.form.alive = false) (source : FormSource) :
    rebind source s = .error .disposed s := by
  rw [rebind, bind_of_error (ensureAlive_of_closed closed)]

theorem Calm.rebind (calm : Calm R) {source : FormSource}
    (bound : ∀ s, s.form.alive = true → R s { s with form := s.form.rebound source }) :
    Keeps R (Run.rebind source) := by
  intro s
  cases alive : s.form.alive with
  | true =>
    rw [after_of_ok (rebind_of_alive alive source)]
    exact bound s alive
  | false =>
    rw [after_of_error (rebind_of_closed alive source)]
    exact calm.refl s

theorem after_cancel (s : Situation) :
    cancel.after s = { s with form := if s.form.alive then s.form.shut else s.form } := rfl

theorem Calm.cancel (calm : Calm R)
    (closed : ∀ s, s.form.alive = true → R s { s with form := s.form.shut }) :
    Keeps R Run.cancel := by
  intro s
  rw [after_cancel]
  cases alive : s.form.alive with
  | true => exact closed s alive
  | false => exact calm.refl s

/-! ### The round trips behind a ticket -/

/-- What loading an action does once its ticket is issued. -/
def receiveView (context : AssignmentContext) (actionId : String) : Run Unit := do
  let reply ← exchange (.view context.assignmentId actionId) Surroundings.takeView
  let view ← expect reply
  ensureAlive
  setActiveAction actionId
  changeForm (·.restart view)

theorem loadAction_of_bound {context : AssignmentContext}
    (bound : s.form.assignment = some context) (actionId : String) :
    loadAction actionId s =
      receiveView context actionId
        { s with form := { s.form with tickets := s.form.tickets.issue.2 } } := by
  rw [loadAction, bind_of_ok (boundAssignment_eq_ok_iff.2 ⟨bound, rfl⟩)]
  rfl

/-- What a submission does once its ticket is issued. -/
def sendSubmission (context : AssignmentContext) (content : Json) : Run SubmitOutcome := do
  let reply ← exchange (.submit (actionRequest context content)) Surroundings.takeSubmission
  let response ← expect reply
  ensureAlive
  follow context response

theorem submit_of_bound {context : AssignmentContext} {content : Json}
    (alive : s.form.alive = true) (bound : s.form.assignment = some context)
    (nested : s.form.document = .ok content) :
    submit s =
      sendSubmission context content
        { s with form := { s.form with errors := .empty, tickets := s.form.tickets.issue.2 } } := by
  rw [submit, bind_of_ok (ensureAlive_of_alive alive),
    bind_of_ok (boundAssignment_eq_ok_iff.2 ⟨bound, rfl⟩),
    bind_of_ok (nestedDocument_eq_ok_iff.2 ⟨nested, rfl⟩)]
  rfl

/-! ### Edits, actions and handlers -/

namespace Frame

variable (frame : Frame R)

include frame

/-- A relation that another action and another view keep is kept by receiving the action's view. -/
theorem receiveView (active : ∀ actionId, (setActiveAction actionId).Keeps R)
    (restart : ∀ s view, R s { s with form := s.form.restart view }) (context : AssignmentContext)
    (actionId : String) : Keeps R (Run.receiveView context actionId) := by
  refine frame.bind (frame.exchange _ Surroundings.calls_takeView) fun reply => ?_
  refine frame.bind (frame.expect reply) fun view => ?_
  refine frame.bind frame.ensureAlive fun _ => ?_
  exact frame.bind (active actionId) fun _ s => restart s view

theorem loadAction (active : ∀ actionId, (setActiveAction actionId).Keeps R)
    (restart : ∀ s view, R s { s with form := s.form.restart view }) (actionId : String) :
    Keeps R (Run.loadAction actionId) := by
  refine frame.bind frame.boundAssignment fun context => ?_
  exact frame.bind frame.issueTicket fun _ => frame.receiveView active restart context actionId

end Frame

/-- The relation is kept by edits and other views, and by the loading of an action. -/
structure WorkFrame (R : Situation → Situation → Prop) : Prop extends Frame R where
  shown : ∀ s view values, R s { s with form := { s.form with view := view, values := values } }
  loadAction : ∀ actionId, Keeps R (Run.loadAction actionId)

namespace WorkFrame

variable (frame : WorkFrame R)

include frame

theorem revisit (s : Situation) (view : View) :
    R s { s with form := s.form.revisit view } := by
  unfold Form.revisit
  split
  · exact frame.shown s view s.form.values
  · exact frame.shown s view view.seed

theorem edit (reference : String) (input : FieldInput) : Keeps R (Run.edit reference input) := by
  refine frame.bind frame.ensureAlive fun _ => frame.bind frame.form fun found => ?_
  split
  · exact frame.throw _
  · exact fun s => frame.shown s s.form.view _

theorem performAction (actionId : String) : Keeps R (Run.performAction actionId) :=
  frame.bind frame.ensureAlive fun _ => frame.loadAction actionId

theorem follow (context : AssignmentContext) (response : SubmitResponse) :
    Keeps R (Run.follow context response) := by
  unfold Run.follow
  split
  · exact frame.pure _
  · split
    · exact frame.bind (frame.loadAction _) fun _ => frame.pure _
    · exact frame.pure _

theorem sendSubmission (context : AssignmentContext) (content : Json) :
    Keeps R (Run.sendSubmission context content) := by
  refine frame.bind (frame.exchange _ Surroundings.calls_takeSubmission) fun reply => ?_
  refine frame.bind (frame.expect reply) fun response => ?_
  exact frame.bind frame.ensureAlive fun _ => frame.follow context response

theorem submit : Keeps R Run.submit := by
  refine frame.bind frame.ensureAlive fun _ => ?_
  refine frame.bind frame.boundAssignment fun context => ?_
  refine frame.bind frame.nestedDocument fun content => ?_
  refine frame.bind frame.clearErrors fun _ => ?_
  exact frame.bind frame.issueTicket fun _ => frame.sendSubmission context content

theorem runStep (step : Step) : Keeps R (Run.runStep step) := by
  cases step with
  | preventDefault => exact frame.pure ()
  | setValue pairs => exact fun s => frame.shown s s.form.view _
  | refresh pairs => exact frame.bind (frame.refresh frame.revisit pairs) fun _ => frame.pure ()
  | performAction actionName => exact frame.performAction actionName
  | runScript name parameters => exact frame.runScript name parameters
  | openUrl base name options => exact frame.bind frame.form fun _ => frame.record rfl

theorem runSteps (steps : List Step) : Keeps R (Run.runSteps steps) := by
  induction steps with
  | nil => exact frame.pure ()
  | cons step steps ih => exact frame.bind (frame.runStep step) fun _ => ih

theorem dispatch (handler : Handler) : Keeps R (Run.dispatch handler) :=
  frame.bind frame.ensureAlive fun _ => frame.runSteps handler.steps

end WorkFrame

end Run

/-- The commands that neither bind nor close a form, and that do not mark a repeating structure. -/
def Command.isWork : Command → Bool
  | .edit _ _ | .dispatch _ | .changeAndDispatch _ _ _ | .refresh _ | .prepareRefresh _ | .submit
  | .save | .createCase _ | .performAction _ => true
  | .prepareRepeat _ _ _ | .applyRefresh _ _ | .editRepeat _ _ _ | .setActiveAction _ | .rebind _
  | .cancel | .endSession => false

/-- What edits and the loading of an action keep, all work on a form keeps. -/
theorem Run.WorkFrame.perform {R : Situation → Situation → Prop} (frame : WorkFrame R)
    {command : Command} (work : command.isWork = true) : command.perform.Keeps R := by
  cases command with
  | edit reference input => exact frame.bind (frame.edit reference input) fun _ => frame.pure _
  | dispatch handler => exact frame.bind (frame.dispatch handler) fun _ => frame.pure _
  | changeAndDispatch reference input handler =>
    refine frame.bind (frame.bind (frame.edit reference input) fun _ => ?_) fun _ => frame.pure _
    exact frame.dispatch handler
  | refresh pairs => exact frame.bind (frame.refresh frame.revisit pairs) fun _ => frame.pure _
  | prepareRefresh pairs => exact frame.bind (frame.prepareRefresh pairs) fun _ => frame.pure _
  | submit => exact frame.bind frame.submit fun _ => frame.pure _
  | save => exact frame.bind frame.save fun _ => frame.pure _
  | createCase caseTypeId => exact frame.bind (frame.createCase caseTypeId) fun _ => frame.pure _
  | performAction actionId => exact frame.bind (frame.performAction actionId) fun _ => frame.pure _
  | _ => cases work

/-- The commands that mark a repeating structure or take its mark away. -/
def Command.isMarking : Command → Bool
  | .prepareRepeat _ _ _ | .applyRefresh _ _ | .editRepeat _ _ _ => true
  | _ => false

/-- What work and loading marks keep, the commands that set marks keep. -/
theorem Run.MarkFrame.perform {R : Situation → Situation → Prop} (frame : MarkFrame R)
    (work : WorkFrame R) {command : Command} (marking : command.isMarking = true) :
    command.perform.Keeps R := by
  cases command with
  | prepareRepeat reference kind operation =>
    exact frame.bind (frame.prepareRepeat reference kind operation) fun _ => frame.pure _
  | applyRefresh prepared reply =>
    exact frame.bind (frame.applyRefresh work.revisit prepared reply) fun _ => frame.pure _
  | editRepeat reference kind operation =>
    refine frame.bind ?_ fun _ => frame.pure _
    exact frame.editRepeat work.revisit reference kind operation
  | _ => cases marking

end CaseForm

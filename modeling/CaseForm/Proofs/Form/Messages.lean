import CaseForm.Proofs.Form.Failure

/-!
Validation messages under a new view.

Messages belong to the fields of the view that was sent. Three operations bind another view and
begin the edited values anew: another source, another action, and a submission after which the
assignment goes on with another action. What succeeds finds no new fault, so the messages under the
new view are those that stood when the request went out (`Run.Spares`).

* `messages_under_new_view`: the messages once another view is bound. Another source and a
  submission forget those of the view before, and loading an action does not;
* `message_stays_under_new_view`: so a message may outlive the view that it was about.
-/

namespace CaseForm

namespace Run

variable {α β : Type} {forgets : Bool}

/-- Where the operation succeeds it leaves the messages that stood, and none if it forgets them. -/
def Spares (forgets : Bool) (run : Run α) : Prop :=
  ∀ s value later, run s = .ok value later → later.form.errors = s.form.standing forgets

namespace Spares

theorem of_local {run : Run α} (here : Local run) : Spares false run := by
  intro s value later ok
  have ran := here s
  rw [ok] at ran
  rw [ran.form]
  rfl

theorem pure (value : α) : Spares false (Pure.pure value) := of_local (.pure value)

theorem bind {first : Run α} {next : α → Run β} (before : Spares forgets first)
    (rest : ∀ value, Spares false (next value)) : Spares forgets (first >>= next) := by
  intro s result later ok
  obtain ⟨value, middle, ran, goes⟩ := bind_eq_ok_iff.1 ok
  have kept := rest value middle result later goes
  exact kept.trans (before s value middle ran)

theorem after_local {first : Run α} {next : α → Run β} (before : Local first)
    (rest : ∀ value, Spares forgets (next value)) : Spares forgets (first >>= next) := by
  intro s result later ok
  obtain ⟨value, middle, ran, goes⟩ := bind_eq_ok_iff.1 ok
  have quiet := before s
  rw [ran] at quiet
  rw [rest value middle result later goes, quiet.form]

/-- A change of the form that does not look at the messages. -/
theorem changeForm {change : Form → Form} (kept : ∀ form, (change form).errors = form.errors) :
    Spares false (Run.changeForm change) := by
  intro s done later ok
  rw [← changeForm_eq_ok_iff.1 ok]
  exact kept s.form

theorem clearErrors : Spares true Run.clearErrors := by
  intro s done later ok
  rw [← changeForm_eq_ok_iff.1 ok]
  rfl

theorem issueTicket : Spares false Run.issueTicket := by
  intro s ticket later ok
  rw [← (issueTicket_eq_ok_iff.1 ok).2]
  rfl

/-- Only a good answer lets an operation go on, and a good answer brings no messages. -/
theorem expect (reply : Reply α) : Spares false (Run.expect reply) := by
  cases reply with
  | ok value => exact pure value
  | error cause =>
    intro s value later ok
    cases cause <;> cases ok

theorem loadAction (actionId : String) : Spares false (Run.loadAction actionId) := by
  refine after_local .boundAssignment fun context => issueTicket.bind fun _ => ?_
  refine after_local (.exchange _ Surroundings.calls_takeView) fun reply => ?_
  refine (expect reply).bind fun view => after_local .ensureAlive fun _ => ?_
  refine bind (after_local .boundAssignment fun _ => ?_) fun _ => ?_
  · exact changeForm fun _ => rfl
  · exact changeForm fun _ => rfl

theorem performAction (actionId : String) : Spares false (Run.performAction actionId) :=
  after_local .ensureAlive fun _ => loadAction actionId

theorem follow (context : AssignmentContext) (response : SubmitResponse) :
    Spares false (Run.follow context response) := by
  unfold Run.follow
  split
  · exact pure _
  · split
    · exact (loadAction _).bind fun _ => pure _
    · exact pure _

theorem submit : Spares true Run.submit := by
  refine after_local .ensureAlive fun _ => after_local .boundAssignment fun context => ?_
  refine after_local .nestedDocument fun content => clearErrors.bind fun _ => ?_
  refine issueTicket.bind fun _ => ?_
  refine after_local (.exchange _ Surroundings.calls_takeSubmission) fun reply => ?_
  exact (expect reply).bind fun response => after_local .ensureAlive fun _ => follow _ _

theorem rebind (source : FormSource) : Spares true (Run.rebind source) := by
  intro s done later ok
  cases alive : s.form.alive with
  | true =>
    rw [rebind_of_alive alive] at ok
    cases ok
    rfl
  | false =>
    rw [rebind_of_closed alive] at ok
    cases ok

end Spares

end Run

namespace Command

/-- The command has bound another view, from which the edited values begin anew. -/
def bindsView : Command → Outcome → Bool
  | .rebind _, _ | .performAction _, _ => true
  | .submit, .submitted outcome => outcome.isActionChanged
  | _, _ => false

/-- The commands that forget the messages of the view before. -/
def clears : Command → Bool
  | .rebind _ | .submit => true
  | _ => false

end Command

/-- The messages under a new view are those that stood when the command began, and none if the
command forgets them. So no message of the view before is left just if another source was bound or a
submission led to the view, or if there was no message to begin with: to perform an action replaces
the view and the edited values, but not the messages. -/
theorem messages_under_new_view {command : Command} {outcome : Outcome} {s later : Situation}
    (binds : command.bindsView outcome = true) (done : command.step s = (.ok outcome, later)) :
    later.form.errors = s.form.standing command.clears ∧
    (later.form.errors = .empty ↔ command.clears = true ∨ s.form.errors = .empty) := by
  have spares : Run.Spares command.clears command.perform := by
    cases command with
    | rebind source => exact (Run.Spares.rebind source).bind fun _ => .pure _
    | performAction actionId => exact (Run.Spares.performAction actionId).bind fun _ => .pure _
    | submit => exact Run.Spares.submit.bind fun _ => .pure _
    | _ => cases binds
  have kept := spares s outcome later (Command.step_eq_ok_iff.1 done)
  refine ⟨kept, ?_⟩
  rw [kept, Form.standing]
  cases command.clears <;> simp

/-- A page that is bound after a save was rejected: the message of the save is gone. -/
theorem messages_under_page :
    let payload : ValidationPayload := ⟨[⟨some ".F", "required"⟩]⟩
    let s := { openAction with surroundings := { saves := [.error (.validation payload)] } }
    let failed := (Command.save.step s).2
    failed.form.errors.get? "F" = some "required" ∧
      ((Command.rebind (.page none ⟨"P", true, [], none⟩)).step failed).2.form.errors = .empty := by
  intro payload s failed
  refine ⟨rfl, ?_⟩
  exact (@messages_under_new_view (.rebind (.page none ⟨"P", true, [], none⟩)) .done failed _ rfl
    rfl).2.2 (.inl rfl)

/-- An action that is performed after a save was rejected: its view is bound, and the message of the
save is still there. -/
theorem message_stays_under_new_view :
    let payload : ValidationPayload := ⟨[⟨some ".F", "required"⟩]⟩
    let s := { openAction with surroundings := {
      saves := [.error (.validation payload)], views := [.ok ⟨"W", true, [], none⟩] } }
    let last := (Command.runAll [.save, .performAction "D"] s).2
    Started s ∧
    (Command.runAll [.save, .performAction "D"] s).1 =
      [.error (.transport (.validation payload)), .ok .done] ∧
    last.form.view.name = "W" ∧ last.form.activeAction = some "D" ∧
    last.form.errors.get? "F" = some "required" ∧ last.form.errors ≠ .empty := by
  intro payload s last
  have stays : last.form.errors.get? "F" = some "required" := rfl
  refine ⟨.built ⟨.ofSettings {}, {}, .start "" ""⟩ _ _, rfl, rfl, rfl, stays, fun none => ?_⟩
  rw [none] at stays
  cases stays

end CaseForm

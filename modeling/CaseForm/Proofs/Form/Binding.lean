import CaseForm.Proofs.Form.Responses

/-!
What a form is bound to while an answer is on its way.

An answer does not say which case, assignment and action it is for; that is told by its ticket. All
commands but one that bind the form anew issue a ticket (`Command.steady`). The exception is to make
an action the active one without asking the server: it issues none, and the answer to an earlier
request is still applied. So while no ticket is issued the form stays on its case and assignment,
and on the action that was chosen last (`Command.assignment_runAll`).

* `applied_binding`: what the form is bound to when an answer is applied;
* `applied_to_another_action`: it need not be the action of the request.
-/

namespace CaseForm

namespace AssignmentContext

/-- The context with another action, if one is chosen. -/
def retarget (choice : Option String) (context : AssignmentContext) : AssignmentContext :=
  { context with actionId := choice.getD context.actionId }

@[simp] theorem retarget_none : retarget none = id := rfl

theorem retarget_or (later earlier : Option String) :
    retarget (later.or earlier) = retarget later ∘ retarget earlier := by
  cases later <;> rfl

theorem retarget_eq_self_iff {choice : Option String} {context : AssignmentContext} :
    context.retarget choice = context ↔
      ∀ actionId, choice = some actionId → actionId = context.actionId := by
  obtain ⟨caseId, assignmentId, current, etag⟩ := context
  cases choice <;> simp [retarget]

end AssignmentContext

/-- The form with another action, if one is chosen and it is on an assignment. -/
def Form.retarget (choice : Option String) (form : Form) : Form :=
  { form with assignment := form.assignment.map (.retarget choice) }

theorem Form.retarget_none (form : Form) : form.retarget none = form := by
  rw [retarget, AssignmentContext.retarget_none, Option.map_id_fun, id_eq]

/-- A form stays on its assignment as it is just if the action that is chosen is the one it is
on. -/
theorem Form.assignment_retarget_eq_iff {choice : Option String} {form : Form} :
    (form.retarget choice).assignment = form.assignment ↔
      ∀ context actionId, form.assignment = some context → choice = some actionId →
        actionId = context.actionId := by
  rw [retarget]
  cases bound : form.assignment with
  | none => simp
  | some context =>
    rw [Option.map_some, Option.some.injEq, AssignmentContext.retarget_eq_self_iff]
    constructor
    · rintro stays _ actionId ⟨⟩
      exact stays actionId
    · exact fun stays actionId => stays context actionId rfl

theorem Form.retarget_or (later earlier : Option String) (form : Form) :
    form.retarget (later.or earlier) = (form.retarget earlier).retarget later := by
  rw [retarget, AssignmentContext.retarget_or, ← Option.map_map]
  rfl

/-- The form is on the case, the assignment and the action of a request. -/
def Form.IsOn (form : Form) (request : ActionRequest) : Prop :=
  ∃ context, form.assignment = some context ∧ context.caseId = request.caseId ∧
    context.assignmentId = request.assignmentId ∧ context.actionId = request.actionId

/-- What holds from a situation to a later one where either a ticket was issued or the form is bound
as it was. -/
structure Steady (s later : Situation) : Prop where
  latest : s.form.tickets.latest ≤ later.form.tickets.latest
  bound : later.form.assignment = s.form.assignment ∨
    s.form.tickets.latest < later.form.tickets.latest

namespace Steady

variable {s later : Situation}

theorem of_eq (tickets : later.form.tickets = s.form.tickets)
    (assignment : later.form.assignment = s.form.assignment) : Steady s later :=
  ⟨Nat.le_of_eq (by rw [tickets]), .inl assignment⟩

theorem of_lt (issued : s.form.tickets.latest < later.form.tickets.latest) : Steady s later :=
  ⟨Nat.le_of_lt issued, .inr issued⟩

theorem frame : Run.MarkFrame Steady where
  refl _ := of_eq rfl rfl
  trans := by
    intro a b c first second
    have forward := first.latest
    have onward := second.latest
    refine ⟨Nat.le_trans forward onward, ?_⟩
    rcases first.bound with here | issued
    · rcases second.bound with there | issued
      · exact .inl (there.trans here)
      · exact .inr (by omega)
    · exact .inr (by omega)
  surroundings _ _ _ := of_eq rfl rfl
  errors _ _ := of_eq rfl rfl
  loading _ _ := of_eq rfl rfl
  issued _ := of_lt (Nat.lt_succ_self _)

end Steady

namespace Run

open Steady (frame)

/-- An action that is loaded takes a ticket first, whatever comes of it. -/
theorem steady_loadAction (actionId : String) : (loadAction actionId).Keeps Steady := by
  intro s
  cases bound : s.form.assignment with
  | none =>
    rw [loadAction, after_of_error (bind_of_error (boundAssignment_of_none bound))]
    exact frame.refl s
  | some context =>
    rw [after, loadAction_of_bound bound]
    have onward := (advances_receiveView context actionId
      { s with form := { s.form with tickets := s.form.tickets.issue.2 } }).latest
    exact .of_lt (Nat.lt_of_succ_le onward)

theorem steady_work : WorkFrame Steady where
  toFrame := frame.toFrame
  shown _ _ _ := .of_eq rfl rfl
  loadAction := steady_loadAction

theorem steady_rebind (source : FormSource) : (rebind source).Keeps Steady :=
  frame.rebind fun _ _ => .of_lt (Nat.lt_succ_self _)

theorem steady_cancel : cancel.Keeps Steady := frame.cancel fun _ _ => .of_eq rfl rfl

/-- Another action becomes the active one at once, if the form is on an assignment. -/
theorem form_after_setActiveAction (actionId : String) (s : Situation) :
    ((setActiveAction actionId).after s).form = s.form.retarget (some actionId) := by
  cases bound : s.form.assignment with
  | none =>
    have same : s.form.retarget (some actionId) = s.form := by
      rw [Form.retarget, bound, Option.map_none, ← bound]
    rw [setActiveAction, after_of_error (bind_of_error (boundAssignment_of_none bound)), same]
  | some context =>
    rw [after, setActiveAction, bind_of_ok (boundAssignment_eq_ok_iff.2 ⟨bound, rfl⟩),
      Form.retarget, bound]
    rfl

end Run

namespace Command

open Steady (frame)

/-- The action that a command makes the active one without asking the server. -/
def choice? : Command → Option String
  | .setActiveAction actionId => some actionId
  | _ => none

/-- The last action that was chosen so. -/
def chosen (commands : List Command) : Option String := (commands.filterMap choice?).getLast?

theorem chosen_cons (command : Command) (commands : List Command) :
    chosen (command :: commands) = (chosen commands).or command.choice? := by
  cases choice : command.choice? with
  | none => rw [chosen, List.filterMap_cons_none choice, Option.or_none, chosen]
  | some actionId =>
    rw [chosen, List.filterMap_cons_some choice, List.getLast?_cons, chosen]
    cases (commands.filterMap choice?).getLast? <;> rfl

/-- Every command that chooses no action issues a ticket or leaves the form bound as it was. -/
theorem steady {command : Command} (plain : command.choice? = none) :
    command.perform.Keeps Steady := by
  have work := Run.steady_work
  cases command with
  | prepareRepeat | applyRefresh | editRepeat => exact frame.perform work rfl
  | setActiveAction actionId => cases plain
  | rebind source => exact frame.bind (Run.steady_rebind source) fun _ => frame.pure _
  | cancel => exact frame.bind Run.steady_cancel fun _ => frame.pure _
  | endSession =>
    refine frame.bind ?_ fun _ => frame.pure _
    exact fun s => .of_eq rfl rfl
  | _ => exact work.perform rfl

/-- A command that issues no ticket leaves the form bound as it was, but for an action that it
chooses. -/
theorem assignment_after (command : Command) {s : Situation}
    (still : (command.step s).2.form.tickets.latest = s.form.tickets.latest) :
    (command.step s).2.form.assignment = (s.form.retarget command.choice?).assignment := by
  rw [step_snd] at still ⊢
  cases plain : command.choice? with
  | none =>
    rw [Form.retarget_none]
    exact (steady plain s).bound.resolve_right (by omega)
  | some actionId =>
    cases command with
    | setActiveAction other =>
      cases plain
      rw [perform, Run.after_bind_pure, Run.form_after_setActiveAction]
    | _ => cases plain

/-- A run that issues no ticket leaves the form bound as it was, but for the action that is chosen
last. -/
theorem assignment_runAll (commands : List Command) {s : Situation}
    (still : (runAll commands s).2.form.tickets.latest = s.form.tickets.latest) :
    (runAll commands s).2.form.assignment = (s.form.retarget (chosen commands)).assignment := by
  induction commands generalizing s with
  | nil =>
    change s.form.assignment = (s.form.retarget none).assignment
    rw [Form.retarget_none]
  | cons command commands ih =>
    have first := (advances command s).latest
    rw [← step_snd] at first
    have rest := (leads_runAll Advances.frame.refl Advances.frame.trans advances commands
      (command.step s).2).latest
    change (runAll commands (command.step s).2).2.form.tickets.latest = _ at still
    change (runAll commands (command.step s).2).2.form.assignment = _
    have here := assignment_after command (s := s) (by omega)
    rw [ih (by omega), chosen_cons, Form.retarget_or, Form.retarget, here]
    rfl

/-- An answer that is applied is to the latest ticket, and leaves the form bound as it was. -/
theorem bound_of_applied {s : Situation} {prepared : PreparedRefresh} {reply : Reply View}
    (applied : ((Command.applyRefresh prepared reply).step s).1 = .ok (.refreshed .applied)) :
    s.form.tickets.latest = prepared.ticket.seq ∧
      ((Command.applyRefresh prepared reply).step s).2.form.assignment = s.form.assignment := by
  rw [step_applyRefresh] at applied ⊢
  cases past : s.isPast prepared.ticket with
  | true =>
    rw [past, if_pos rfl] at applied
    cases alive : s.form.alive <;> simp [alive] at applied
  | false =>
    rw [past, if_neg Bool.false_ne_true] at applied
    rw [if_neg Bool.false_ne_true]
    have latest : prepared.ticket.seq = s.form.tickets.latest := by
      simpa [Situation.isPast, Tickets.isLatest] using (Bool.or_eq_false_iff.1 past).2
    refine ⟨latest.symm, ?_⟩
    cases reply with
    | error error => cases applied
    | ok view =>
      change ((s.release prepared.container).form.revisit view).assignment = s.form.assignment
      have released : (s.release prepared.container).form.assignment = s.form.assignment := by
        cases prepared.container <;> rfl
      rw [← released, Form.revisit]
      split <;> rfl

end Command

/-- When an answer is applied the form is on the case and the assignment that the request was made
for. It is on the action of the request as well, unless another action has been made the active one
in the meantime without asking the server: that issues no ticket, so the answer counts as before and
its view is shown under the action that was chosen last. -/
theorem applied_binding {s middle : Situation} {command : Command} {prepared : PreparedRefresh}
    {between : List Command} {reply : Reply View}
    (ready : command.step s = (.ok (.prepared (some prepared)), middle))
    (applied : ((Command.applyRefresh prepared reply).step
      (Command.runAll between middle).2).1 = .ok (.refreshed .applied)) :
    let answered :=
      ((Command.applyRefresh prepared reply).step (Command.runAll between middle).2).2.form
    (∃ context, answered.assignment = some context ∧
      context.caseId = prepared.request.caseId ∧
      context.assignmentId = prepared.request.assignmentId ∧
      context.actionId = (Command.chosen between).getD prepared.request.actionId) ∧
    (answered.IsOn prepared.request ↔
      ∀ actionId, Command.chosen between = some actionId →
        actionId = prepared.request.actionId) := by
  have prepares := Command.prepares_of_step ready
  obtain ⟨context, content, bound, request⟩ := prepares.request
  obtain ⟨latest, kept⟩ := Command.bound_of_applied applied
  have still : (Command.runAll between middle).2.form.tickets.latest =
      middle.form.tickets.latest := latest.trans prepares.holds.1.symm
  have here : middle.form.assignment = some context := by
    rw [prepares.form]
    exact bound
  have there : ((Command.applyRefresh prepared reply).step
      (Command.runAll between middle).2).2.form.assignment =
        some (context.retarget (Command.chosen between)) := by
    rw [kept, Command.assignment_runAll between still, Form.retarget, here]
    rfl
  rw [request]
  refine ⟨⟨_, there, rfl, rfl, rfl⟩, ?_⟩
  constructor
  · rintro ⟨other, same, -, -, action⟩ actionId choice
    rw [there] at same
    obtain rfl := Option.some.inj same
    rw [← action, AssignmentContext.retarget, choice]
    rfl
  · intro chosen
    refine ⟨_, there, rfl, rfl, ?_⟩
    cases choice : Command.chosen between with
    | none => rfl
    | some actionId => exact chosen actionId choice

/-- An action that was chosen and then taken back leaves the form on the action of the request. -/
theorem applied_after_return :
    ((Command.applyRefresh ⟨⟨1⟩, ⟨"C", "A", "B", .obj []⟩, none⟩ (.ok ⟨"", true, [], none⟩)).step
      (Command.runAll [.setActiveAction "Z", .edit "F" (.text "x"), .setActiveAction "B"]
        ((Command.prepareRefresh []).step openAction).2).2).2.form.IsOn
          ⟨"C", "A", "B", .obj []⟩ := by
  have ready : (Command.prepareRefresh []).step openAction =
      (.ok (.prepared (some ⟨⟨1⟩, ⟨"C", "A", "B", .obj []⟩, none⟩)),
        ((Command.prepareRefresh []).step openAction).2) := rfl
  refine (applied_binding ready ?_).2.2 ?_
  · rfl
  · rintro _ ⟨⟩
    rfl

/-- Once another action has been made the active one, an answer for the action before is still
applied, and its view is shown under the other action. -/
theorem applied_to_another_action :
    ∃ prepared middle,
      (Command.prepareRefresh []).step openAction = (.ok (.prepared (some prepared)), middle) ∧
      let (result, answered) := (Command.applyRefresh prepared (.ok ⟨"V", true, [], none⟩)).step
        (Command.runAll [.setActiveAction "Z"] middle).2
      result = .ok (.refreshed .applied) ∧ answered.form.view.name = "V" ∧
        answered.form.activeAction = some "Z" ∧ ¬ answered.form.IsOn prepared.request := by
  refine ⟨_, _, rfl, rfl, rfl, rfl, ?_⟩
  rintro ⟨context, bound, -, -, action⟩
  cases bound
  exact absurd action (by decide)

end CaseForm

import CaseForm.Proofs.Form.Binding
import CaseForm.Proofs.Form.History

/-!
Forms that have been closed.

One command closes a form and none opens it again (`Command.alive_runAll`). Nearly all operations
look first whether the form is open, and are refused otherwise (`Command.step_of_closed`). Answers
to refreshes are dropped, and since closing took all loading marks away they find none to release.
What is left is the exception: to make an action the active one does not look whether the form is
open. So of what is seen of a closed form only its action can change
(`Command.form_runAll_of_closed`).

* `closed_form_stays`: what stays of a form that was closed in a run;
* `closed_form_takes_action`: its action need not stay.
-/

namespace CaseForm

/-! ### Open and closed -/

namespace Run

/-- What leaves a form open or closed as it is. -/
theorem frame_alive : MarkFrame fun s later : Situation => later.form.alive = s.form.alive where
  refl _ := rfl
  trans first second := second.trans first
  surroundings _ _ _ := rfl
  errors _ _ := rfl
  issued _ := rfl
  loading _ _ := rfl

theorem alive_after_setActiveAction (actionId : String) :
    (setActiveAction actionId).Keeps fun s later => later.form.alive = s.form.alive :=
  frame_alive.bind frame_alive.boundAssignment fun _ _ => rfl

theorem work_alive : WorkFrame fun s later : Situation => later.form.alive = s.form.alive where
  toFrame := frame_alive.toFrame
  shown _ _ _ := rfl
  loadAction := frame_alive.loadAction alive_after_setActiveAction fun _ _ => rfl

theorem alive_after_rebind (source : FormSource) :
    (rebind source).Keeps fun s later => later.form.alive = s.form.alive :=
  frame_alive.rebind fun _ _ => by cases source <;> rfl

/-- The operation looks first whether the form is open. -/
def Guarded {α : Type} (run : Run α) : Prop :=
  ∀ s : Situation, s.form.alive = false → run s = .error .disposed s

theorem guarded_ensureAlive : Guarded ensureAlive := fun _ closed => ensureAlive_of_closed closed

theorem Guarded.bind {α β : Type} {first : Run α} (guarded : Guarded first) (next : α → Run β) :
    Guarded (first >>= next) := fun s closed => bind_of_error (guarded s closed)

end Run

/-- A form without loading marks has none to release. -/
theorem Situation.release_of_unmarked {s : Situation} (unmarked : s.form.loading = .empty)
    (container : Option String) : s.release container = s := by
  cases container with
  | none => rfl
  | some container =>
    have erased : s.form.loading.erase container = s.form.loading := by
      rw [unmarked]
      rfl
    rw [release, erased]

namespace Command

variable {s : Situation}

/-- The command closes the form. -/
def closes : Command → Bool
  | .cancel => true
  | _ => false

/-- The commands that look first whether the form is open. -/
def isGuarded : Command → Bool
  | .applyRefresh _ _ | .setActiveAction _ | .cancel | .endSession => false
  | _ => true

/-- A form is open after a command if it was before and the command does not close it. -/
theorem alive_step (command : Command) (s : Situation) :
    (command.step s).2.form.alive = (s.form.alive && !command.closes) := by
  have frame := Run.frame_alive
  have work := Run.work_alive
  have kept (stays : command.perform.Keeps fun s later => later.form.alive = s.form.alive)
      (other : command.closes = false) :
      (command.step s).2.form.alive = (s.form.alive && !command.closes) := by
    rw [step_snd, stays s, other, Bool.not_false, Bool.and_true]
  cases command with
  | prepareRepeat | applyRefresh | editRepeat => exact kept (frame.perform work rfl) rfl
  | setActiveAction actionId =>
    exact kept (frame.bind (Run.alive_after_setActiveAction actionId) fun _ => frame.pure _) rfl
  | rebind source =>
    exact kept (frame.bind (Run.alive_after_rebind source) fun _ => frame.pure _) rfl
  | cancel =>
    rw [step_snd, perform, Run.after_bind_pure, Run.after_cancel]
    cases alive : s.form.alive with
    | true => rfl
    | false => exact alive
  | endSession => exact kept (frame.bind (fun s => rfl) fun _ => frame.pure _) rfl
  | _ => exact kept (work.perform rfl) rfl

/-- A form is open after a run if it was before and no command of the run closes it. -/
theorem alive_runAll (commands : List Command) (s : Situation) :
    (runAll commands s).2.form.alive = (s.form.alive && !commands.any closes) := by
  induction commands generalizing s with
  | nil => exact (Bool.and_true _).symm
  | cons command commands ih =>
    change (runAll commands (command.step s).2).2.form.alive = _
    rw [ih, alive_step, List.any_cons, Bool.not_or, Bool.and_assoc]

/-! ### What a closed form does -/

/-- A command that looks first whether the form is open is refused by a closed form, and changes
nothing. -/
theorem step_of_closed {command : Command} (guarded : command.isGuarded = true)
    (closed : s.form.alive = false) : command.step s = (.error .disposed, s) := by
  have look := Run.guarded_ensureAlive
  have refused (run : command.perform.Guarded) : command.step s = (.error .disposed, s) := by
    rw [step, run s closed]
  cases command with
  | applyRefresh | setActiveAction | cancel | endSession => cases guarded
  | changeAndDispatch => exact refused (((look.bind _).bind _).bind _)
  | refresh | editRepeat => exact refused (((look.bind _).bind _).bind _)
  | _ => exact refused ((look.bind _).bind _)

/-- Of a closed form without loading marks a command leaves everything as it is but the action and
the session. -/
theorem form_step_of_closed (command : Command) (closed : s.form.alive = false)
    (unmarked : s.form.loading = .empty) :
    (command.step s).2.form =
      { s.form.retarget command.choice? with session := (command.step s).2.form.session } := by
  have still (same : (command.step s).2 = s) (plain : command.choice? = none) :
      (command.step s).2.form =
        { s.form.retarget command.choice? with session := (command.step s).2.form.session } := by
    rw [same, plain, Form.retarget_none]
  cases command with
  | applyRefresh prepared reply =>
    refine still ?_ rfl
    rw [step_applyRefresh, if_pos (Run.isPast_of_closed closed _),
      Situation.release_of_unmarked unmarked]
  | setActiveAction actionId =>
    have taken := Run.form_after_setActiveAction actionId s
    rw [← Run.after_bind_pure (Run.setActiveAction actionId) fun _ => Outcome.done] at taken
    rw [step_snd, perform, taken]
    rfl
  | cancel =>
    refine still ?_ rfl
    rw [step_snd, perform, Run.after_bind_pure, Run.after_cancel, closed]
    rfl
  | endSession =>
    have plain : endSession.choice? = none := rfl
    rw [plain, Form.retarget_none]
    rfl
  | _ => exact still (by rw [step_of_closed rfl closed]) rfl

/-- Of a closed form without loading marks a run leaves everything as it is but the action, which
becomes the one that is chosen last, and the session. -/
theorem form_runAll_of_closed (commands : List Command) (closed : s.form.alive = false)
    (unmarked : s.form.loading = .empty) :
    (runAll commands s).2.form =
      { s.form.retarget (chosen commands) with
        session := (runAll commands s).2.form.session } := by
  induction commands generalizing s with
  | nil =>
    change s.form = { s.form.retarget none with session := s.form.session }
    rw [Form.retarget_none]
  | cons command commands ih =>
    have here := form_step_of_closed command closed unmarked
    have rest := ih (s := (command.step s).2) (by rw [here]; exact closed)
      (by rw [here]; exact unmarked)
    rw [chosen_cons, Form.retarget_or]
    change (runAll commands (command.step s).2).2.form = _
    rw [rest, here]
    rfl

/-- Closing a form takes its loading marks away, so a form that is not open has none. -/
theorem unmarked_step (command : Command)
    (unmarked : s.form.alive = false → s.form.loading = .empty)
    (closed : (command.step s).2.form.alive = false) :
    (command.step s).2.form.loading = .empty := by
  cases alive : s.form.alive with
  | false =>
    rw [form_step_of_closed command alive (unmarked alive)]
    exact unmarked alive
  | true =>
    rw [alive_step, alive] at closed
    cases command with
    | cancel =>
      rw [step_snd, perform, Run.after_bind_pure, Run.after_cancel, alive]
      rfl
    | _ => cases closed

theorem unmarked_runAll (commands : List Command)
    (unmarked : s.form.alive = false → s.form.loading = .empty)
    (closed : (runAll commands s).2.form.alive = false) :
    (runAll commands s).2.form.loading = .empty := by
  induction commands generalizing s with
  | nil => exact unmarked closed
  | cons command commands ih => exact ih (unmarked_step command unmarked) closed

end Command

/-- A form begins open and without loading marks. -/
theorem Started.form_eq {s : Situation} (started : Started s) :
    s.form.alive = true ∧ s.form.loading = .empty := by
  cases started with
  | built setup source surroundings => cases source <;> exact ⟨rfl, rfl⟩
  | @opened setup assignment before after form opened =>
    unfold Setup.openAssignment at opened
    split at opened
    · cases opened
    · split at opened
      · dsimp only at opened
        split at opened
        · cases opened
          exact ⟨rfl, rfl⟩
        · cases opened
      · cases opened

/-- Of a form that was closed in a run the view, the edited values, the validation messages and the
loading marks stay as they were right after that, whatever is asked of it later. Its assignment
stays as well, unless another action is made the active one: that does not look whether the form is
open, and the form is then on the action that was chosen last. -/
theorem closed_form_stays {s : Situation} (started : Started s) (earlier later : List Command) :
    let closed := (Command.runAll (earlier ++ [.cancel]) s).2
    let last := (Command.runAll later closed).2.form
    last.view = closed.form.view ∧ last.values = closed.form.values ∧
    last.errors = closed.form.errors ∧ last.loading = closed.form.loading ∧
    last.assignment = closed.form.assignment.map (.retarget (Command.chosen later)) ∧
    (last.assignment = closed.form.assignment ↔
      ∀ context actionId, closed.form.assignment = some context →
        Command.chosen later = some actionId → actionId = context.actionId) := by
  intro closed last
  have shut : closed.form.alive = false := by
    rw [Command.alive_runAll, List.any_append]
    simp [Command.closes]
  have unmarked : closed.form.loading = .empty := by
    refine Command.unmarked_runAll _ (fun absurd => ?_) shut
    rw [started.form_eq.1] at absurd
    cases absurd
  have stays : last = { closed.form.retarget (Command.chosen later) with
      session := (Command.runAll later closed).2.form.session } :=
    Command.form_runAll_of_closed later shut unmarked
  have assignment := congrArg Form.assignment stays
  refine ⟨(congrArg Form.view stays :), (congrArg Form.values stays :),
    (congrArg Form.errors stays :), (congrArg Form.loading stays :), assignment, ?_⟩
  rw [assignment]
  exact Form.assignment_retarget_eq_iff

theorem started_openAction : Started openAction := .built ⟨.ofSettings {}, {}, .start "" ""⟩ _ _

/-- A form that was closed while a row operation was on its way: its late answer and another page
change nothing. -/
theorem closed_form_stays_bound :
    let closed := (Command.runAll ([.edit "F" (.text "x"), .prepareRepeat "L" .list .add] ++
      [.cancel]) openAction).2
    (Command.runAll [.applyRefresh ⟨⟨1⟩, ⟨"C", "A", "B", .obj []⟩, some "L"⟩
        (.ok ⟨"V", true, [], none⟩), .rebind (.page none ⟨"", true, [], none⟩)]
      closed).2.form.assignment = closed.form.assignment := by
  obtain ⟨-, -, -, -, -, stays⟩ := closed_form_stays started_openAction
    [.edit "F" (.text "x"), .prepareRepeat "L" .list .add]
    [.applyRefresh ⟨⟨1⟩, ⟨"C", "A", "B", .obj []⟩, some "L"⟩ (.ok ⟨"V", true, [], none⟩),
      .rebind (.page none ⟨"", true, [], none⟩)]
  exact stays.2 nofun

/-- A closed form takes another action. -/
theorem closed_form_takes_action :
    Started openAction ∧
    let closed := (Command.runAll [.cancel] openAction).2
    let (result, later) := (Command.setActiveAction "Z").step closed
    closed.form.alive = false ∧ result = .ok .done ∧
      closed.form.activeAction = some "B" ∧ later.form.activeAction = some "Z" :=
  ⟨started_openAction, rfl, rfl, rfl, rfl⟩

end CaseForm

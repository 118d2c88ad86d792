import CaseForm.Proofs.Form.Trace
import CaseForm.Proofs.Layout.Alike

/-!
The history of the edited values.

Two things bear on the edited values of a form: a value is written to a reference, or the values
begin anew with those that a view brings along (`Deed`). Which operations do so is told by what they
answer (`Command.deeds`): a successful edit and a step that sets values write, while another source,
another action and an answer with another view begin anew. What is written is told by the input of
the edit and by each pair of the step, resolved among the values before it. The edited values are
then those of the bound view with the writes since the last beginning (`values_follow_history`).

An answer with an equal view keeps the values and replaces the view, so the bound view and the one
that the values began with are equal only as views are, and the values as values are.
-/

namespace CaseForm

/-- What bears on edited values. -/
inductive Deed where
  /-- The values begin anew. -/
  | restart
  | write (reference : String) (value : Json)

namespace Deed

/-- The writes of pairs. -/
def writes (pairs : List (String × Json)) : List Deed :=
  pairs.map fun pair => .write pair.1 pair.2

/-- The writes after one more deed. -/
def next (before : List (String × Json)) : Deed → List (String × Json)
  | .restart => []
  | .write reference value => before ++ [(reference, value)]

/-- The writes of a history since the values last began anew. -/
def recent (history : List Deed) : List (String × Json) := history.foldl next []

@[simp] theorem recent_restart (history : List Deed) : recent (history ++ [.restart]) = [] := by
  rw [recent, List.foldl_append]
  rfl

@[simp] theorem recent_writes (history : List Deed) (pairs : List (String × Json)) :
    recent (history ++ writes pairs) = recent history ++ pairs := by
  induction pairs generalizing history with
  | nil => simp [writes]
  | cons pair pairs ih =>
    have one : recent (history ++ [.write pair.1 pair.2]) = recent history ++ [pair] := by
      rw [recent, List.foldl_append]
      rfl
    rw [writes, List.map_cons, List.append_cons, ← writes, ih, one, List.append_assoc]
    rfl

end Deed

/-! ### What operations do to the edited values -/

namespace Run

variable {α β : Type}

/-- The deeds of what comes after an operation, if it succeeds. -/
def deedsAfter (run : Run α) (deeds : α → Situation → List Deed) (s : Situation) : List Deed :=
  match run s with
  | .ok value next => deeds value next
  | .error _ _ => []

/-- An operation begins the values anew if its answer says so. -/
def renewal (run : Run α) (renewed : α → Bool) : Situation → List Deed :=
  run.deedsAfter fun value _ => if renewed value then [.restart] else []

/-- An edit that succeeds writes what was entered: a text or the key of an option as it is, whether a
box is checked, and a date as the pattern has it. -/
def editDeeds (reference : String) (input : FieldInput) : Situation → List Deed :=
  (edit reference input).deedsAfter fun _ later =>
    match input with
    | .text entry | .selection entry => [.write reference (.str entry)]
    | .checked on => [.write reference (.bool on)]
    | .date day =>
      match day.write later.form.renderer.settings.dateFormat with
      | .ok text => [.write reference (.str text)]
      | .error _ => []

/-- An answer that is applied begins the values anew if its view is not the one that is shown. -/
def applyDeeds (prepared : PreparedRefresh) (reply : Reply View) (s : Situation) : List Deed :=
  match applyRefresh prepared reply s, reply with
  | .ok .applied _, .ok view => if view.same s.form.view then [] else [.restart]
  | _, _ => []

/-- A refresh does what its answer does. -/
def refreshDeeds (pairs : List SetValuePair) : Situation → List Deed :=
  (prepareRefresh pairs).deedsAfter fun prepared =>
    (sendRefresh prepared).deedsAfter fun reply => applyDeeds prepared reply

/-- So does a row operation that is not cancelled. -/
def editRepeatDeeds (reference : String) (kind : RepeatKind) (operation : RepeatOperation) :
    Situation → List Deed :=
  (prepareRepeat reference kind operation).deedsAfter fun
    | none => fun _ => []
    | some prepared => (sendRefresh prepared).deedsAfter fun reply => applyDeeds prepared reply

/-- The deeds of a step of a handler. Each pair is written to the reference that its name stands for,
with the value that its expression stands for among the values before the step. -/
def stepDeeds : Step → Situation → List Deed
  | .setValue pairs => fun s => pairs.map fun pair =>
    .write (expandRelative pair.name) (resolveProperty s.form.values pair.value)
  | .refresh pairs => refreshDeeds pairs
  | .performAction actionName => renewal (performAction actionName) fun _ => true
  | .preventDefault | .runScript _ _ | .openUrl _ _ _ => fun _ => []

/-- The deeds of steps one after another, up to the first that fails. -/
def stepsDeeds : List Step → Situation → List Deed
  | [], _ => []
  | step :: steps, s => stepDeeds step s ++ (runStep step).deedsAfter (fun _ => stepsDeeds steps) s

/-- The deeds of a handler. -/
def dispatchDeeds (handler : Handler) : Situation → List Deed :=
  ensureAlive.deedsAfter fun _ => stepsDeeds handler.steps

end Run

/-- Whether a submission led to another action. -/
def SubmitOutcome.isActionChanged : SubmitOutcome → Bool
  | .actionChanged _ => true
  | _ => false

namespace Command

/-- The deeds of a command. Only those of a handler can be several. -/
def deeds : Command → Situation → List Deed
  | .edit reference input => Run.editDeeds reference input
  | .dispatch handler => Run.dispatchDeeds handler
  | .changeAndDispatch reference input handler => fun s =>
    Run.editDeeds reference input s ++
      (Run.edit reference input).deedsAfter (fun _ => Run.dispatchDeeds handler) s
  | .refresh pairs => Run.refreshDeeds pairs
  | .applyRefresh prepared reply => Run.applyDeeds prepared reply
  | .editRepeat reference kind operation => Run.editRepeatDeeds reference kind operation
  | .submit => Run.submit.renewal SubmitOutcome.isActionChanged
  | .performAction actionId => (Run.performAction actionId).renewal fun _ => true
  | .rebind source => (Run.rebind source).renewal fun _ => true
  | .prepareRefresh _ | .prepareRepeat _ _ _ | .save | .createCase _ | .setActiveAction _ | .cancel
  | .endSession => fun _ => []

/-- The deeds of the commands of a run. -/
def history (commands : List Command) (s : Situation) : List Deed :=
  (trace commands s).flatMap fun event => event.command.deeds event.before

end Command

/-! ### What a history says of the edited values -/

/-- The edited values are those of a view equal to the bound one, with the recent writes of the
history. -/
def Follows (history : List Deed) (s : Situation) : Prop :=
  ∃ base : View, s.form.view.same base = true ∧
    s.form.values = base.seed.extend (Deed.recent history)

/-- What holds when deeds lead from one situation to another: the edited values follow the history
with the deeds, and without deeds they stay. -/
structure Leads (deeds : List Deed) (s later : Situation) : Prop where
  follows : ∀ history, Follows history s → Follows (history ++ deeds) later
  still : deeds = [] → later.form.values = s.form.values

/-- The view and the edited values are the same. -/
def Still (s later : Situation) : Prop :=
  later.form.view = s.form.view ∧ later.form.values = s.form.values

theorem Still.frame : Run.MarkFrame Still where
  refl _ := ⟨rfl, rfl⟩
  trans first second := ⟨second.1.trans first.1, second.2.trans first.2⟩
  surroundings _ _ _ := ⟨rfl, rfl⟩
  errors _ _ := ⟨rfl, rfl⟩
  loading _ _ := ⟨rfl, rfl⟩
  issued _ := ⟨rfl, rfl⟩

namespace Leads

variable {s middle later : Situation} {deeds rest : List Deed}

theorem of_still (still : Still s later) : Leads [] s later where
  follows history := by
    rintro ⟨base, same, values⟩
    rw [List.append_nil]
    exact ⟨base, still.1 ▸ same, still.2.trans values⟩
  still _ := still.2

theorem trans (first : Leads deeds s middle) (second : Leads rest middle later) :
    Leads (deeds ++ rest) s later where
  follows history follows := by
    rw [← List.append_assoc]
    exact second.follows _ (first.follows history follows)
  still none := by
    obtain ⟨here, there⟩ := List.append_eq_nil_iff.1 none
    exact (second.still there).trans (first.still here)

theorem after_still (still : Still s middle) (rest : Leads deeds middle later) :
    Leads deeds s later := (of_still still).trans rest

/-- Values that begin anew follow any history. -/
theorem restart (renewed : later.form.values = later.form.view.seed) :
    Leads [.restart] s later where
  follows history _ := by
    refine ⟨later.form.view, View.same_refl _, ?_⟩
    rw [Deed.recent_restart, renewed]
    rfl
  still none := by cases none

/-- Writes are added to those of the history. -/
theorem writes (pairs : List (String × Json)) (view : later.form.view = s.form.view)
    (written : later.form.values = s.form.values.extend pairs) :
    Leads (Deed.writes pairs) s later where
  follows history := by
    rintro ⟨base, same, values⟩
    refine ⟨base, view ▸ same, ?_⟩
    rw [written, values, Deed.recent_writes, Table.extend_append]
  still none := by
    rw [written, List.map_eq_nil_iff.1 none]
    rfl

end Leads

/-! ### Every operation leads by its deeds -/

namespace Run

variable {α β : Type}

/-- From every situation the deeds lead to what the operation leaves. -/
def Tells (run : Run α) (deeds : Situation → List Deed) : Prop :=
  ∀ s, Leads (deeds s) s (run.after s)

/-- An operation begins the values anew where its answer says so, and otherwise leaves them. -/
def Renews (run : Run α) (renewed : α → Bool) : Prop :=
  ∀ s, match run s with
    | .ok value later =>
      if renewed value then later.form.values = later.form.view.seed else Still s later
    | .error _ later => Still s later

namespace Tells

theorem of_keeps {run : Run α} (still : run.Keeps Still) : run.Tells fun _ => [] :=
  fun s => .of_still (still s)

theorem bind {run : Run α} {next : α → Run β} {deeds : Situation → List Deed}
    {later : α → Situation → List Deed} (first : run.Tells deeds)
    (rest : ∀ value, (next value).Tells (later value)) :
    (run >>= next).Tells fun s => deeds s ++ run.deedsAfter later s := by
  intro s
  have here := first s
  change Leads (deeds s ++ run.deedsAfter later s) s ((run >>= next).after s)
  rw [after_bind, deedsAfter]
  cases ran : run s with
  | ok value middle =>
    rw [after_of_ok ran] at here
    exact here.trans (rest value middle)
  | error error middle =>
    rw [after_of_error ran] at here
    rwa [List.append_nil]

/-- What comes after an operation that leaves the values has all the deeds. -/
theorem after_still {run : Run α} {next : α → Run β} {later : α → Situation → List Deed}
    (still : run.Keeps Still) (rest : ∀ value, (next value).Tells (later value)) :
    (run >>= next).Tells (run.deedsAfter later) :=
  (of_keeps still).bind rest

theorem map {run : Run α} {deeds : Situation → List Deed} (told : run.Tells deeds)
    (value : α → β) : (run >>= fun result => pure (value result)).Tells deeds := by
  intro s
  rw [after_bind_pure]
  exact told s

end Tells

namespace Renews

theorem bind {run : Run α} {next : α → Run β} {renewed : β → Bool} (still : run.Keeps Still)
    (rest : ∀ value, (next value).Renews renewed) : (run >>= next).Renews renewed := by
  intro s
  have here := still s
  cases ran : run s with
  | error error middle =>
    rw [bind_of_error ran]
    rwa [after_of_error ran] at here
  | ok value middle =>
    rw [bind_of_ok ran]
    rw [after_of_ok ran] at here
    have there := rest value middle
    cases last : next value middle with
    | error error later =>
      rw [last] at there
      exact Still.frame.trans here there
    | ok result later =>
      rw [last] at there
      dsimp only at there ⊢
      split
      · next renews => rwa [if_pos renews] at there
      · next keeps =>
        rw [if_neg keeps] at there
        exact Still.frame.trans here there

theorem map {run : Run α} {value : α → β} {renewed : β → Bool}
    (renews : run.Renews fun result => renewed (value result)) :
    (run >>= fun result => pure (value result)).Renews renewed := by
  intro s
  have here := renews s
  cases ran : run s with
  | error error later =>
    rw [bind_of_error ran]
    rwa [ran] at here
  | ok result later =>
    rw [bind_of_ok ran]
    rwa [ran] at here

/-- The deeds of an operation that renews are told by its answer. -/
theorem tells {run : Run α} {renewed : α → Bool} (renews : run.Renews renewed) :
    run.Tells (run.renewal renewed) := by
  intro s
  have here := renews s
  rw [renewal, deedsAfter, after]
  cases ran : run s with
  | error error later =>
    rw [ran] at here
    exact .of_still here
  | ok result later =>
    rw [ran] at here
    dsimp only at here ⊢
    split
    · next renews =>
      rw [if_pos renews] at here
      exact .restart here
    · next keeps =>
      rw [if_neg keeps] at here
      exact .of_still here

end Renews

open Still (frame)

/-! ### Beginning anew -/

theorem still_setActiveAction (actionId : String) : (setActiveAction actionId).Keeps Still :=
  frame.bind frame.boundAssignment fun _ _ => ⟨rfl, rfl⟩

theorem renews_receiveView (context : AssignmentContext) (actionId : String) :
    (receiveView context actionId).Renews fun _ => true := by
  refine .bind (frame.exchange _ Surroundings.calls_takeView) fun reply => ?_
  refine .bind (frame.expect reply) fun view => ?_
  refine .bind frame.ensureAlive fun _ => ?_
  refine .bind (still_setActiveAction actionId) fun _ => ?_
  exact fun s => rfl

theorem renews_loadAction (actionId : String) : (loadAction actionId).Renews fun _ => true := by
  refine .bind frame.boundAssignment fun context => ?_
  exact .bind frame.issueTicket fun _ => renews_receiveView context actionId

theorem renews_performAction (actionId : String) :
    (performAction actionId).Renews fun _ => true :=
  .bind frame.ensureAlive fun _ => renews_loadAction actionId

theorem renews_follow (context : AssignmentContext) (response : SubmitResponse) :
    (follow context response).Renews SubmitOutcome.isActionChanged := by
  unfold follow
  split
  · exact fun s => frame.refl s
  · split
    · exact (renews_loadAction _).map
    · exact fun s => frame.refl s

theorem renews_submit : submit.Renews SubmitOutcome.isActionChanged := by
  refine .bind frame.ensureAlive fun _ => ?_
  refine .bind frame.boundAssignment fun context => ?_
  refine .bind frame.nestedDocument fun content => ?_
  refine .bind frame.clearErrors fun _ => ?_
  refine .bind frame.issueTicket fun _ => ?_
  refine .bind (frame.exchange _ Surroundings.calls_takeSubmission) fun reply => ?_
  refine .bind (frame.expect reply) fun response => ?_
  exact .bind frame.ensureAlive fun _ => renews_follow context response

theorem renews_rebind (source : FormSource) : (rebind source).Renews fun _ => true := by
  intro s
  cases alive : s.form.alive with
  | true =>
    rw [rebind_of_alive alive]
    rfl
  | false =>
    rw [rebind_of_closed alive]
    exact frame.refl s

/-! ### Writing -/

/-- An edit that fails changes nothing. -/
theorem edit_eq_error {reference : String} {input : FieldInput} {error : FormError}
    {s later : Situation} (failed : edit reference input s = .error error later) : later = s := by
  cases alive : s.form.alive with
  | false =>
    rw [edit, bind_of_error (ensureAlive_of_closed alive)] at failed
    cases failed
    rfl
  | true =>
    rw [edit, bind_of_ok (ensureAlive_of_alive alive), bind_of_ok (form_eq_ok_iff.2 ⟨rfl, rfl⟩)]
      at failed
    cases written : input.value s.form.renderer.settings.dateFormat with
    | error cause =>
      rw [written] at failed
      cases failed
      rfl
    | ok value =>
      rw [written] at failed
      cases failed

theorem tells_edit (reference : String) (input : FieldInput) :
    (edit reference input).Tells (editDeeds reference input) := by
  intro s
  rw [editDeeds, deedsAfter]
  cases ran : edit reference input s with
  | error error later =>
    rw [after_of_error ran, edit_eq_error ran]
    exact .of_still (frame.refl s)
  | ok done later =>
    obtain ⟨-, value, written, rfl⟩ := edit_eq_ok_iff.1 ran
    rw [after_of_ok ran]
    cases input with
    | text entry | selection entry | checked on =>
      cases written
      exact .writes [(reference, _)] rfl rfl
    | date day =>
      rw [FieldInput.value] at written
      dsimp only
      cases printed : day.write s.form.renderer.settings.dateFormat with
      | error cause =>
        rw [printed] at written
        cases written
      | ok text =>
        rw [printed] at written
        cases written
        exact .writes [(reference, .str text)] rfl rfl

/-! ### Answers -/

/-- A view that is shown again keeps the values; another begins them anew. -/
theorem leads_revisit {s later : Situation} {view : View}
    (shown : later.form = s.form.revisit view) :
    Leads (if view.same s.form.view then [] else [.restart]) s later := by
  cases same : view.same s.form.view with
  | true =>
    have kept : later.form.view = view ∧ later.form.values = s.form.values := by
      rw [shown, Form.revisit, if_pos same]
      exact ⟨rfl, rfl⟩
    refine ⟨?_, fun _ => kept.2⟩
    rintro history ⟨base, equal, values⟩
    rw [if_pos rfl, List.append_nil]
    exact ⟨base, kept.1 ▸ View.same_trans same equal, kept.2.trans values⟩
  | false =>
    refine .restart ?_
    rw [shown, Form.revisit, same]
    rfl

theorem tells_applyRefresh (prepared : PreparedRefresh) (reply : Reply View) :
    (applyRefresh prepared reply).Tells (applyDeeds prepared reply) := by
  intro s
  have released := frame.release prepared.container s
  unfold applyDeeds after
  rw [applyRefresh_eq, ← released.1]
  refine .after_still released ?_
  generalize s.release prepared.container = s
  cases past : s.isPast prepared.ticket with
  | true =>
    rw [settle_of_isPast past]
    cases alive : s.form.alive <;> exact .of_still (frame.refl s)
  | false =>
    rw [settle_of_current past]
    cases reply with
    | ok view => exact leads_revisit rfl
    | error error => exact .of_still (frame.report error s)

theorem tells_refresh (pairs : List SetValuePair) : (refresh pairs).Tells (refreshDeeds pairs) :=
  .after_still (frame.prepareRefresh pairs) fun prepared =>
    .after_still (frame.sendRefresh prepared) fun reply => tells_applyRefresh prepared reply

theorem tells_editRepeat (reference : String) (kind : RepeatKind) (operation : RepeatOperation) :
    (editRepeat reference kind operation).Tells (editRepeatDeeds reference kind operation) := by
  refine .after_still (frame.prepareRepeat reference kind operation) fun prepared => ?_
  cases prepared with
  | none => exact .of_keeps (frame.pure _)
  | some prepared =>
    exact .after_still (frame.sendRefresh prepared) fun reply => tells_applyRefresh prepared reply

/-! ### Handlers -/

theorem tells_runStep (step : Step) : (runStep step).Tells (stepDeeds step) := by
  cases step with
  | preventDefault => exact .of_keeps (frame.pure ())
  | setValue pairs =>
    intro s
    have written : stepDeeds (.setValue pairs) s = Deed.writes (s.form.resolvePairs pairs) := by
      rw [stepDeeds, Deed.writes, Form.resolvePairs, List.map_map]
      rfl
    rw [written]
    exact .writes (s.form.resolvePairs pairs) rfl rfl
  | refresh pairs => exact (tells_refresh pairs).map _
  | performAction actionName => exact (renews_performAction actionName).tells
  | runScript name parameters => exact .of_keeps (frame.runScript name parameters)
  | openUrl base name options => exact .of_keeps (frame.bind frame.form fun _ => frame.record rfl)

theorem tells_runSteps (steps : List Step) : (runSteps steps).Tells (stepsDeeds steps) := by
  induction steps with
  | nil => exact .of_keeps (frame.pure ())
  | cons step steps ih => exact (tells_runStep step).bind fun _ => ih

theorem tells_dispatch (handler : Handler) : (dispatch handler).Tells (dispatchDeeds handler) :=
  .after_still frame.ensureAlive fun _ => tells_runSteps handler.steps

theorem still_cancel : cancel.Keeps Still := frame.cancel fun _ _ => ⟨rfl, rfl⟩

end Run

namespace Command

open Still (frame)

/-- Every command leads by its deeds. -/
theorem tells (command : Command) : command.perform.Tells command.deeds := by
  cases command with
  | edit reference input => exact (Run.tells_edit reference input).map _
  | dispatch handler => exact (Run.tells_dispatch handler).map _
  | changeAndDispatch reference input handler =>
    exact ((Run.tells_edit reference input).bind fun _ => Run.tells_dispatch handler).map _
  | refresh pairs => exact (Run.tells_refresh pairs).map _
  | prepareRefresh pairs => exact (Run.Tells.of_keeps (frame.prepareRefresh pairs)).map _
  | prepareRepeat reference kind operation =>
    exact (Run.Tells.of_keeps (frame.prepareRepeat reference kind operation)).map _
  | applyRefresh prepared reply => exact (Run.tells_applyRefresh prepared reply).map _
  | editRepeat reference kind operation =>
    exact (Run.tells_editRepeat reference kind operation).map _
  | submit => exact Run.renews_submit.tells.map _
  | save => exact (Run.Tells.of_keeps frame.save).map _
  | createCase caseTypeId => exact (Run.Tells.of_keeps (frame.createCase caseTypeId)).map _
  | performAction actionId => exact (Run.renews_performAction actionId).tells.map _
  | setActiveAction actionId =>
    exact (Run.Tells.of_keeps (Run.still_setActiveAction actionId)).map _
  | rebind source => exact (Run.renews_rebind source).tells.map _
  | cancel => exact (Run.Tells.of_keeps Run.still_cancel).map _
  | endSession =>
    have still : Run.endSession.Keeps Still := fun s => ⟨rfl, rfl⟩
    exact (Run.Tells.of_keeps still).map _

variable {commands : List Command} {s : Situation}

/-- A run leads by its history. -/
theorem leads_history (commands : List Command) (s : Situation) :
    Leads (history commands s) s (runAll commands s).2 := by
  induction commands generalizing s with
  | nil => exact .of_still (frame.refl s)
  | cons command commands ih =>
    have here := tells command s
    rw [← step_snd] at here
    exact here.trans (ih _)

end Command

/-- A form that has just been built or opened, in any surroundings. -/
inductive Started : Situation → Prop
  | built (setup : Setup) (source : FormSource) (surroundings : Surroundings) :
    Started ⟨setup.build source, surroundings⟩
  | opened {setup : Setup} {assignment : Assignment} {before after : Surroundings} {form : Form} :
    setup.openAssignment assignment before = (.ok form, after) → Started ⟨form, after⟩

theorem Form.build_values (renderer : Renderer) (scripts : Scripts) (session : Session)
    (source : FormSource) :
    (Form.build renderer scripts session source).values =
      (Form.build renderer scripts session source).view.seed := by
  cases source <;> rfl

/-- A form begins with the values of its view. -/
theorem Started.follows {s : Situation} (started : Started s) : Follows [] s := by
  have seeded : s.form.values = s.form.view.seed := by
    cases started with
    | built setup source surroundings => exact Form.build_values ..
    | @opened setup assignment before after form opened =>
      unfold Setup.openAssignment at opened
      split at opened
      · cases opened
      · split at opened
        · dsimp only at opened
          split at opened
          · cases opened
            exact Form.build_values ..
          · cases opened
        · cases opened
  exact ⟨s.form.view, View.same_refl _, seeded⟩

/-- After any run of a form the edited values are equal to those that the bound view brings along,
with the writes of the run since the values last began anew; and every command without a deed leaves
them as they are. -/
theorem values_follow_history {s : Situation} (started : Started s) (commands : List Command) :
    (let last := (Command.runAll commands s).2
    (last.form.view.seed.extend (Deed.recent (Command.history commands s))).Same
      last.form.values) ∧
    ∀ event ∈ Command.trace commands s, event.command.deeds event.before = [] →
      event.after.form.values = event.before.form.values := by
  constructor
  · obtain ⟨base, same, values⟩ :=
      (Command.leads_history commands s).follows [] started.follows
    rw [List.nil_append] at values
    have equal : List.Forall₂ Json.SameMember (Deed.recent (Command.history commands s))
        (Deed.recent (Command.history commands s)) := by
      rw [List.forall₂_same]
      exact fun pair _ => ⟨rfl, pair.2.same_refl⟩
    dsimp only
    rw [values]
    exact (View.same_seed same).extend equal
  · intro event mem idle
    rw [Command.after_of_mem_trace mem]
    exact (Command.tells event.command event.before).still idle

/-- A view with a field for a town, which has a value of the server. -/
def townView : View :=
  ⟨"V", true, [.field { Field.record.blank with reference := "Town", value := .str "Lyon" }], none⟩

/-- An action with this view. -/
def townSource : FormSource := .assignment ⟨"C", "A", "B", none⟩ townView

/-- A form that has been built on it; the server will answer a refresh with the same view. -/
def townForm : Situation :=
  ⟨Setup.build ⟨.ofSettings {}, {}, .start "" ""⟩ townSource, { refreshes := [.ok townView] }⟩

/-- The town is edited, and the source is bound again. Then a name is edited, the view is refreshed,
and a handler sets values: a literal, the town, and what the town was before. -/
def townCommands : List Command :=
  [.edit "Town" (.text "Rome"), .rebind townSource, .edit "Name" (.text "Ada"), .refresh [],
    .dispatch ⟨[.preventDefault, .setValue [⟨".Greeting", .str "\"Hello\""⟩,
      ⟨"Town", .str "Oslo"⟩, ⟨"Birthplace", .str ".Town"⟩]], []⟩]

/-- The values are those that the view brings along and the four writes since it was bound again.
The refresh is answered with an equal view and leaves the name, and each pair of the handler is
written with what its expression stood for before the step. -/
theorem values_follow_set_values :
    let writes : List (String × Json) := [("Name", .str "Ada"), ("Greeting", .str "Hello"),
      ("Town", .str "Oslo"), ("Birthplace", .str "Lyon")]
    let last := (Command.runAll townCommands townForm).2
    Started townForm ∧
    (Command.runAll townCommands townForm).1 =
      [.ok .done, .ok .done, .ok .done, .ok (.refreshed .applied), .ok .done] ∧
    Deed.recent (Command.history townCommands townForm) = writes ∧
    last.form.view.seed.entries = [("Town", .str "Lyon")] ∧
    (last.form.view.seed.extend writes).Same last.form.values ∧
    last.form.values.entries = [("Birthplace", .str "Lyon"), ("Greeting", .str "Hello"),
      ("Name", .str "Ada"), ("Town", .str "Oslo")] := by
  intro writes last
  have started : Started townForm := .built _ _ _
  have recent : Deed.recent (Command.history townCommands townForm) = writes := by rfl
  refine ⟨started, rfl, recent, rfl, ?_, rfl⟩
  rw [← recent]
  exact (values_follow_history started townCommands).1

end CaseForm

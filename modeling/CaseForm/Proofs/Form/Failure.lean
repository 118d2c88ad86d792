import CaseForm.Proofs.Form.Loading

/-!
Round trips that fail.

A round trip goes to the server with a request and waits for the answer; a submission may go twice,
the second time for the view of the action that comes next. An answer that is not what was hoped for
is reported: validation messages go to their fields, and anything else alarms the user. A good
answer changes the form, but as the last thing that is done; so a round trip that fails has changed
validation messages, tickets and loading marks at most (`Command.failed`).

* `failed_round_trip`: what a failed round trip leaves of the form, and what the user is told;
* `messages_after_rejection`: the validation messages once the server has rejected what it was
  sent. Not every round trip forgets the messages before it, and what one of the others finds stays
  where the server says nothing new.
-/

namespace CaseForm

/-- What the user is told when a round trip fails: nothing where the error has its place in the form
or comes from this side. -/
def FormError.alarm? : FormError → Option String
  | .transport (.validation _) => none
  | .transport cause => some cause.message
  | _ => none

theorem FormError.alarm?_of_cause? {error : FormError} (here : error.cause? = none) :
    error.alarm? = none := by
  cases error with
  | transport cause => cases here
  | _ => rfl

/-- The validation messages that stand when a request goes out. -/
def Form.standing (forgets : Bool) (form : Form) : ValidationErrors :=
  if forgets then .empty else form.errors

namespace Run

variable {α β : Type} {forgets forgot : Bool} {s middle later : Situation} {error : FormError}

/-! ### Before the answer -/

/-- On the way to an answer the form changes its messages, tickets and loading marks at most, the
user is not alarmed, and the messages that stand are the same. -/
structure Proceeds (forgets forgot : Bool) (s middle : Situation) : Prop where
  form : middle.form = { s.form with
    errors := middle.form.errors
    tickets := middle.form.tickets
    loading := middle.form.loading }
  silent : s.Alarmed middle []
  standing : middle.form.standing forgot = s.form.standing forgets

/-- A failed operation has changed the form's messages, tickets and loading marks at most and has
alarmed the user as its error asks for, and messages of the server are added to those that stood. -/
structure Failed (forgets : Bool) (error : FormError) (s later : Situation) : Prop where
  form : later.form = { s.form with
    errors := later.form.errors
    tickets := later.form.tickets
    loading := later.form.loading }
  alarmed : s.Alarmed later error.alarm?.toList
  messages : ∀ payload, error = .transport (.validation payload) →
    later.form.errors = (s.form.standing forgets).merge payload

theorem Quiet.proceeds (quiet : Quiet s middle) : Proceeds forgets forgets s middle := by
  refine ⟨?_, quiet.silent, ?_⟩
  · rw [quiet.form]
  · rw [quiet.form]

theorem Proceeds.failed (proceeds : Proceeds forgets forgot s middle)
    (failed : Failed forgot error middle later) : Failed forgets error s later := by
  refine ⟨?_, ?_, ?_⟩
  · rw [failed.form, proceeds.form]
  · exact proceeds.silent.trans failed.alarmed
  · intro payload rejected
    rw [failed.messages payload rejected, proceeds.standing]

theorem failed_of_local (here : error.cause? = none) (quiet : Quiet s later) :
    Failed forgets error s later := by
  have same : Proceeds forgets forgets s later := quiet.proceeds
  refine ⟨same.form, ?_, ?_⟩
  · rw [FormError.alarm?_of_cause? here]
    exact quiet.silent
  · rintro payload rfl
    cases here

/-- A report puts messages in their place, and alarms the user of anything else. -/
theorem failed_report (cause : TransportError) (s : Situation) :
    Failed false (.transport cause) s ((report cause).after s) := by
  cases cause with
  | validation payload =>
    refine ⟨rfl, .refl s, ?_⟩
    rintro _ ⟨⟩
    rfl
  | _ => exact ⟨rfl, ⟨_, rfl, rfl⟩, nofun⟩

/-! ### Operations that fail -/

/-- However the operation fails, it leaves what a failed operation leaves. -/
def Fails (forgets : Bool) (run : Run α) : Prop :=
  ∀ s error later, run s = .error error later → Failed forgets error s later

namespace Fails

theorem of_local {run : Run α} (here : Local run) : Fails forgets run := by
  intro s error later failed
  have ran := here s
  rw [failed] at ran
  exact failed_of_local ran.1 ran.2

theorem pure (value : α) : Fails forgets (Pure.pure value) := of_local (.pure value)

/-- What comes after an operation on this side. -/
theorem after_local {first : Run α} {next : α → Run β} (before : Local first)
    (rest : ∀ value, Fails forgets (next value)) : Fails forgets (first >>= next) := by
  intro s error later failed
  have ran := before s
  cases result : first s with
  | error cause middle =>
    rw [result] at ran
    rw [bind_of_error result] at failed
    cases failed
    exact failed_of_local ran.1 ran.2
  | ok value middle =>
    rw [result] at ran
    rw [bind_of_ok result] at failed
    exact ran.proceeds.failed (rest value middle error later failed)

/-- What comes after a step that always succeeds and leads towards an answer. -/
theorem after_step {first : Run α} {next : α → Run β}
    (step : ∀ s, ∃ value middle, first s = .ok value middle ∧ Proceeds forgets forgot s middle)
    (rest : ∀ value, Fails forgot (next value)) : Fails forgets (first >>= next) := by
  intro s error later failed
  obtain ⟨value, middle, ok, proceeds⟩ := step s
  rw [bind_of_ok ok] at failed
  exact proceeds.failed (rest value middle error later failed)

/-- An answer makes an operation fail, or it goes on with it. -/
theorem after_expect {reply : Reply α} {next : α → Run β}
    (rest : ∀ value, Fails false (next value)) : Fails false (expect reply >>= next) := by
  cases reply with
  | ok value => exact rest value
  | error cause =>
    intro s error later failed
    have ran : (expect (.error cause : Reply α) >>= next) s =
        .error (.transport cause) ((report cause).after s) := by
      cases cause <;> rfl
    rw [ran] at failed
    cases failed
    exact failed_report cause s

/-- An operation that ends with what cannot fail. -/
theorem before_last {first : Run α} {last : α → Run β} (before : Fails forgets first)
    (total : ∀ value s, ∃ result later, last value s = .ok result later) :
    Fails forgets (first >>= last) := by
  intro s error later failed
  cases result : first s with
  | error cause middle =>
    rw [bind_of_error result] at failed
    cases failed
    exact before s error later result
  | ok value middle =>
    obtain ⟨_, _, ok⟩ := total value middle
    rw [bind_of_ok result, ok] at failed
    cases failed

theorem before_pure {run : Run α} (before : Fails forgets run) (value : α → β) :
    Fails forgets (run >>= fun result => Pure.pure (value result)) :=
  before.before_last fun _ _ => ⟨_, _, rfl⟩

theorem after_issueTicket {next : Ticket → Run β} (rest : ∀ ticket, Fails forgets (next ticket)) :
    Fails forgets (issueTicket >>= next) :=
  after_step (fun s => ⟨_, _, rfl, rfl, .refl s, rfl⟩) rest

/-- Once messages are forgotten, none stand. -/
theorem after_clearErrors {next : Unit → Run β} (rest : Fails false (next ())) :
    Fails true (clearErrors >>= next) :=
  after_step (fun s => ⟨_, _, rfl, rfl, .refl s, rfl⟩) fun _ => rest

/-! ### Round trips -/

theorem settle (ticket : Ticket) (reply : Reply View) :
    Fails false (Run.settle ticket reply) := by
  intro s error later failed
  cases past : s.isPast ticket with
  | true =>
    rw [settle_of_isPast past] at failed
    cases failed
  | false =>
    rw [settle_of_current past] at failed
    cases reply with
    | ok view => cases failed
    | error cause =>
      cases failed
      exact failed_report cause s

theorem applyRefresh (prepared : PreparedRefresh) (reply : Reply View) :
    Fails false (Run.applyRefresh prepared reply) := by
  intro s error later failed
  rw [applyRefresh_eq] at failed
  have released : Proceeds false false s (s.release prepared.container) := by
    cases prepared.container <;> exact ⟨rfl, .refl s, rfl⟩
  exact released.failed (settle prepared.ticket reply _ error later failed)

theorem refresh (pairs : List SetValuePair) : Fails true (Run.refresh pairs) := by
  simp only [Run.refresh, prepareRefresh_eq, bind_assoc, pure_bind]
  refine after_local (.draftRefresh pairs) fun request => after_clearErrors ?_
  refine after_issueTicket fun ticket => after_local (.sendRefresh _) fun reply => ?_
  exact applyRefresh _ reply

theorem editRepeat (reference : String) (kind : RepeatKind) (operation : RepeatOperation) :
    Fails true (Run.editRepeat reference kind operation) := by
  rw [Run.editRepeat, prepareRepeat_eq, bind_assoc]
  refine after_local (.draftRepeat reference kind operation) fun request => ?_
  cases request with
  | none => exact pure _
  | some request =>
    simp only [commitRepeat, bind_assoc, pure_bind]
    refine after_step (fun s => ⟨_, _, rfl, rfl, .refl s, rfl⟩) fun _ => after_clearErrors ?_
    refine after_issueTicket fun ticket => after_local (.sendRefresh _) fun reply => ?_
    exact applyRefresh _ reply

theorem loadAction (actionId : String) : Fails false (Run.loadAction actionId) := by
  refine after_local .boundAssignment fun context => after_issueTicket fun _ => ?_
  refine after_local (.exchange _ Surroundings.calls_takeView) fun reply => ?_
  refine after_expect fun view => ?_
  refine after_local .ensureAlive fun _ => ?_
  rw [setActiveAction, bind_assoc]
  -- The form changes from here on, but nothing is left that fails.
  exact before_last (of_local .boundAssignment) fun _ _ => ⟨_, _, rfl⟩

theorem performAction (actionId : String) : Fails false (Run.performAction actionId) :=
  after_local .ensureAlive fun _ => loadAction actionId

theorem follow (context : AssignmentContext) (response : SubmitResponse) :
    Fails false (Run.follow context response) := by
  unfold Run.follow
  split
  · exact pure _
  · split
    · exact (loadAction _).before_pure _
    · exact pure _

theorem submit : Fails true Run.submit := by
  refine after_local .ensureAlive fun _ => after_local .boundAssignment fun context => ?_
  refine after_local .nestedDocument fun content => after_clearErrors ?_
  refine after_issueTicket fun _ => ?_
  refine after_local (.exchange _ Surroundings.calls_takeSubmission) fun reply => ?_
  refine after_expect fun response => after_local .ensureAlive fun _ => follow context response

theorem save : Fails false Run.save := by
  refine after_local .ensureAlive fun _ => after_local .form fun found => ?_
  split
  · exact of_local (.throw rfl)
  · refine after_local .nestedDocument fun content => ?_
    refine after_local (.exchange _ Surroundings.calls_takeSave) fun reply => ?_
    exact after_expect fun _ => of_local (.record rfl rfl)

theorem createCase (caseTypeId : String) : Fails false (Run.createCase caseTypeId) := by
  refine after_local .ensureAlive fun _ => after_local .nestedDocument fun content => ?_
  refine after_local (.exchange _ Surroundings.calls_takeCreation) fun reply => ?_
  have ends : Fails false (expect reply >>= Pure.pure) := after_expect fun response => pure response
  rwa [bind_pure] at ends

end Fails

end Run

namespace Command

variable {command : Command} {s later : Situation} {error : FormError}

/-- The commands that go to the server and wait for the answer. -/
def isRoundTrip : Command → Bool
  | .refresh _ | .editRepeat _ _ _ | .submit | .save | .createCase _ | .performAction _ => true
  | _ => false

/-- The round trips that forget all validation messages before they are sent. -/
def forgets : Command → Bool
  | .refresh _ | .editRepeat _ _ _ | .submit => true
  | _ => false

/-- What every round trip leaves when it fails. -/
theorem failed (trip : command.isRoundTrip = true)
    (result : command.step s = (.error error, later)) :
    Run.Failed command.forgets error s later := by
  have fails : Run.Fails command.forgets command.perform := by
    cases command with
    | refresh pairs => exact (Run.Fails.refresh pairs).before_pure _
    | editRepeat reference kind operation =>
      exact (Run.Fails.editRepeat reference kind operation).before_pure _
    | submit => exact Run.Fails.submit.before_pure _
    | save => exact Run.Fails.save.before_pure _
    | createCase caseTypeId => exact (Run.Fails.createCase caseTypeId).before_pure _
    | performAction actionId => exact (Run.Fails.performAction actionId).before_pure _
    | _ => cases trip
  refine fails s error later ?_
  rw [step] at result
  cases ran : command.perform s with
  | ok outcome next =>
    rw [ran] at result
    cases result
  | error cause next =>
    rw [ran] at result
    cases result
    rfl

/-- A round trip leaves the loading marks as it found them, whether it succeeds or fails. -/
theorem loading_after_roundTrip (trip : command.isRoundTrip = true) (s : Situation) :
    (command.step s).2.form.loading = s.form.loading := by
  rw [step_snd]
  cases command with
  | editRepeat reference kind operation =>
    rw [perform, Run.after_bind_pure, Run.loading_after_editRepeat]
  | refresh | submit | save | createCase | performAction => exact Run.work_loading.perform rfl s
  | _ => cases trip

end Command

/-- A round trip that fails leaves the form usable. Nothing about the form is changed but validation
messages and tickets: not its view or the edited values, nor what it is bound to, nor its loading
marks, nor whether it is open. The user is alarmed just once if the server could not be reached or
did not answer as hoped, and not at all if it sent validation messages or if the round trip failed
on this side. This is so as well where a submission fails on its second way. -/
theorem failed_round_trip {command : Command} {s later : Situation} {error : FormError}
    (trip : command.isRoundTrip = true) (failed : command.step s = (.error error, later)) :
    later.form = { s.form with errors := later.form.errors, tickets := later.form.tickets } ∧
    later.form.caseId = s.form.caseId ∧ later.form.activeAction = s.form.activeAction ∧
    ∃ made, later.surroundings.calls = s.surroundings.calls ++ made ∧
      made.filterMap Call.alarm? = error.alarm?.toList := by
  obtain ⟨form, alarmed, -⟩ := Command.failed trip failed
  have loading : later.form.loading = s.form.loading := by
    rw [← Command.loading_after_roundTrip trip s, failed]
  rw [loading] at form
  refine ⟨form, ?_, ?_, alarmed⟩
  · rw [form]
    rfl
  · rw [form]
    rfl

/-- A submission that is accepted, but whose next view does not come. -/
theorem failed_submission_without_view :
    let s := { openAction with surroundings := { submissions := [.ok ⟨some "A", some "D", none⟩] } }
    ∃ later, Command.submit.step s = (.error (.transport noReply), later) ∧
      later.form.activeAction = some "B" ∧ later.form.caseId = some "C" ∧
      ∃ made, later.surroundings.calls = s.surroundings.calls ++ made ∧
        made.filterMap Call.alarm? = ["Network failure: no reply"] := by
  intro s
  obtain ⟨-, caseId, action, alarmed⟩ := @failed_round_trip .submit s _ (.transport noReply) rfl rfl
  exact ⟨_, rfl, action, caseId, alarmed⟩

/-! ### Messages after a rejection -/

namespace ValidationErrors

variable (errors : ValidationErrors) (payload : ValidationPayload) (reference : String)

/-- What a message says of a reference. -/
def at? (message : ValidationMessage) (reference : String) : Option String :=
  match message.path with
  | none => none
  | some path =>
    if path = "" then none
    else if reference = expandRelative path then some message.message else none

theorem get?_add (message : ValidationMessage) :
    (errors.add message).get? reference = (at? message reference).or (errors.get? reference) := by
  unfold add at?
  cases message.path with
  | none => rfl
  | some path =>
    dsimp only
    split
    · rfl
    · rw [Table.get?_insert]
      split <;> rfl

/-- Of a reference the table says what the payload says, or else what it said before. -/
theorem get?_merge :
    (errors.merge payload).get? reference =
      ((ofPayload payload).get? reference).or (errors.get? reference) := by
  obtain ⟨messages⟩ := payload
  induction messages generalizing errors with
  | nil => rfl
  | cons message messages ih =>
    change (merge (errors.add message) ⟨messages⟩).get? reference =
      ((merge (add .empty message) ⟨messages⟩).get? reference).or (errors.get? reference)
    rw [ih, ih (add .empty message), get?_add, get?_add, Table.get?_empty, Option.or_none,
      Option.or_assoc]

/-- Merging a payload leaves its messages alone if it has a message wherever there was one. -/
theorem merge_eq_ofPayload_iff :
    errors.merge payload = ofPayload payload ↔
      ∀ reference, errors.contains reference = true →
        (ofPayload payload).contains reference = true := by
  constructor
  · intro same reference stands
    have there := errors.get?_merge payload reference
    rw [same] at there
    rw [Table.contains] at stands ⊢
    rw [there, Option.isSome_or, stands, Bool.or_true]
  · intro covered
    refine Table.ext_get? fun reference => ?_
    rw [get?_merge]
    cases new : (ofPayload payload).get? reference with
    | some message => rfl
    | none =>
      cases old : errors.get? reference with
      | none => rfl
      | some message =>
        have stands := covered reference (by rw [Table.contains, old]; rfl)
        rw [Table.contains, new] at stands
        cases stands

end ValidationErrors

/-- What the form says of its fields after the server has rejected what a round trip sent: the new
messages, and under other references the messages that stood when the request went out. These are
the messages of the server alone if the round trip forgets those before it, as a refresh, a row
operation and a submission do, and otherwise only if the server has a message for every reference
that had one. -/
theorem messages_after_rejection {command : Command} {s later : Situation}
    {payload : ValidationPayload} (trip : command.isRoundTrip = true)
    (rejected : command.step s = (.error (.transport (.validation payload)), later)) :
    later.form.errors = (s.form.standing command.forgets).merge payload ∧
    (later.form.errors = .ofPayload payload ↔
      command.forgets = true ∨ ∀ reference, s.form.errors.contains reference = true →
        (ValidationErrors.ofPayload payload).contains reference = true) := by
  have merged := (Command.failed trip rejected).messages payload rfl
  refine ⟨merged, ?_⟩
  rw [merged, Form.standing]
  cases command.forgets with
  | true => exact ⟨fun _ => .inl rfl, fun _ => rfl⟩
  | false =>
    simp only [Bool.false_eq_true, if_false, false_or]
    exact ValidationErrors.merge_eq_ofPayload_iff _ _

/-- A submission that is rejected after a save was: what the server said of the save is gone. -/
theorem messages_after_submission :
    let saved : ValidationPayload := ⟨[⟨some ".F", "required"⟩]⟩
    let sent : ValidationPayload := ⟨[⟨some ".G", "too long"⟩]⟩
    let s := { openAction with surroundings := {
      saves := [.error (.validation saved)], submissions := [.error (.validation sent)] } }
    let last := (Command.runAll [.save, .submit] s).2
    last.form.errors = .ofPayload sent := by
  intro saved sent s last
  exact (@messages_after_rejection .submit (Command.save.step s).2 last sent rfl rfl).2.2 (.inl rfl)

/-- A save that is rejected after another was: the message for a field that the server no longer
finds fault with stays on the field. -/
theorem message_stays_after_save :
    let first : ValidationPayload := ⟨[⟨some ".F", "required"⟩]⟩
    let second : ValidationPayload := ⟨[⟨some ".G", "too long"⟩]⟩
    let s := { openAction with surroundings := {
      saves := [.error (.validation first), .error (.validation second)] } }
    let last := (Command.runAll [.save, .save] s).2
    Started s ∧
    (Command.runAll [.save, .save] s).1 =
      [.error (.transport (.validation first)), .error (.transport (.validation second))] ∧
    last.form.errors.get? "F" = some "required" ∧ last.form.errors ≠ .ofPayload second := by
  intro first second s last
  have stays : last.form.errors.get? "F" = some "required" := rfl
  refine ⟨.built ⟨.ofSettings {}, {}, .start "" ""⟩ _ _, rfl, stays, fun same => ?_⟩
  rw [same] at stays
  cases stays

end CaseForm

import CaseForm.Proofs.Document.Located
import CaseForm.Proofs.Form.Responses

/-!
Requests that are not built.

A request may fail to be built for many reasons, and the user may cancel it. Whatever it is, it
comes before anything is changed. The parts of a draft look at the form and leave everything as it
was (`Run.Looks`), but for the prompt that asks for the key of a group (`Situation.asked`); and when
the form commits itself to a draft, nothing can fail any more.

* `Run.after_prepareRefresh`, `Run.asks_prepareRepeat`: what is left where no request is built;
* `Command.step_applyRefresh_of_form_eq`: the answer to a refresh is about the form alone;
* `unbuilt_requests_change_nothing`: so a refresh that is on its way meanwhile is applied as if
  nothing had been asked for.
-/

namespace CaseForm

/-- The situation once the user has been asked for the key of a group. -/
def Situation.asked (operation : RepeatOperation) (s : Situation) : Situation :=
  { s with surroundings :=
      (s.surroundings.record (.prompt operation.question "")).takePrompt.2 }

/-- Nothing has changed, or the user was asked for a key, which happens for groups only. -/
def Situation.Asks (kind : RepeatKind) (operation : RepeatOperation) (s later : Situation) : Prop :=
  later = s ∨ kind = .group ∧ later = s.asked operation

theorem Situation.Asks.form {kind : RepeatKind} {operation : RepeatOperation}
    {s later : Situation} (asks : s.Asks kind operation later) : later.form = s.form := by
  rcases asks with rfl | ⟨-, rfl⟩
  · rfl
  · rfl

namespace Run

variable {α β : Type} {s s' : Situation} {first : Run α} {next : α → Run β}
  {reference : String} {kind : RepeatKind} {operation : RepeatOperation}
  {pairs : List SetValuePair}

namespace Looks

theorem after_eq {run : Run α} (looks : Looks run) (s : Situation) : run.after s = s := by
  have here := looks s
  rw [after]
  cases ran : run s with
  | ok value later =>
    rw [ran] at here
    exact here
  | error error later =>
    rw [ran] at here
    exact here.1

/-- What comes after a look starts from where the look did. -/
theorem lead {R : Situation → Situation → Prop} (stay : R s s) (looks : Looks first)
    (rest : ∀ value, first s = .ok value s → R s ((next value).after s)) :
    R s ((first >>= next).after s) := by
  have same := looks.after_eq s
  rw [Run.after_bind]
  cases ran : first s with
  | error error middle =>
    rw [after_of_error ran] at same
    subst same
    exact stay
  | ok value middle =>
    rw [after_of_ok ran] at same
    subst same
    exact rest value ran

/-- A look at the end changes nothing about what an operation leaves. -/
theorem after_bind (rest : ∀ value, Looks (next value)) (s : Situation) :
    (first >>= next).after s = first.after s := by
  rw [Run.after_bind, after]
  cases first s with
  | error error middle => rfl
  | ok value middle => exact (rest value).after_eq middle

end Looks

/-! ### Drafts -/

/-- Rows are changed without a prompt, entries of a group with one. -/
theorem asks_editRepeated (reference : String) (operation : RepeatOperation) (repeated : Repeated)
    (s : Situation) :
    s.Asks repeated.kind operation ((editRepeated reference operation repeated).after s) := by
  cases repeated with
  | rows rows => exact .inl rfl
  | entries entries =>
    obtain ⟨next, looks, same⟩ := exists_editRepeated_entries reference operation entries
    refine .inr ⟨rfl, ?_⟩
    rw [same, Looks.after_bind looks]
    rfl

/-- The request of a row operation is drafted from what is there, and the user may be asked. -/
theorem asks_draftRepeat (reference : String) (kind : RepeatKind) (operation : RepeatOperation)
    (s : Situation) :
    s.Asks kind operation ((draftRepeat reference kind operation).after s) := by
  have stay : s.Asks kind operation s := .inl rfl
  refine Looks.ensureAlive.lead stay fun _ _ => Looks.form.lead stay fun found _ => ?_
  dsimp only
  split
  · exact stay
  · refine Looks.boundAssignment.lead stay fun context _ => ?_
    refine Looks.nestedDocument.lead stay fun document _ => ?_
    refine Looks.form.lead stay fun found _ => ?_
    refine (Looks.ofReference _).lead stay fun repeated answers => ?_
    -- What was located is of the kind that was asked for.
    have located := (ofReference_eq_ok_iff.1 answers).1
    obtain ⟨rfl, -⟩ := Addressing.locate_again (Prod.ext rfl located)
    rw [Looks.after_bind]
    · exact asks_editRepeated reference operation repeated s
    · intro edited
      cases edited <;> exact .pure _

/-! ### Requests that are not built -/

/-- A refresh that is not built leaves everything as it was. -/
theorem after_prepareRefresh
    (idle : ∀ prepared later, prepareRefresh pairs s ≠ .ok prepared later) :
    (prepareRefresh pairs).after s = s := by
  have looks := (Looks.draftRefresh pairs).after_eq s
  rw [prepareRefresh_eq, after_bind]
  cases drafted : draftRefresh pairs s with
  | error error middle =>
    rw [after_of_error drafted] at looks
    exact looks
  | ok request middle =>
    rw [after_of_ok drafted] at looks
    subst looks
    exact absurd (prepareRefresh_eq_ok_iff.2 ⟨request, drafted, rfl, rfl⟩) (idle _ _)

/-- A row operation that is not built leaves everything as it was, but for a prompt. -/
theorem asks_prepareRepeat
    (idle : ∀ prepared later,
      prepareRepeat reference kind operation s ≠ .ok (some prepared) later) :
    s.Asks kind operation ((prepareRepeat reference kind operation).after s) := by
  rw [after_prepareRepeat idle]
  exact asks_draftRepeat reference kind operation s

end Run

/-- The event is a request for a refresh that is not built: there is an error, or the user
cancels. -/
def Event.isUnbuilt (event : Event) : Bool :=
  match event.command with
  | .prepareRefresh _ | .prepareRepeat _ _ _ => event.prepared?.isNone
  | _ => false

namespace Command

variable {commands : List Command} {s later : Situation} {event : Event}

/-- A request that is not built leaves the form as it was. -/
theorem form_of_isUnbuilt (mem : event ∈ trace commands s) (unbuilt : event.isUnbuilt = true) :
    event.after.form = event.before.form := by
  have step := step_of_mem_trace mem
  have left := after_of_mem_trace mem
  obtain ⟨before, command, result, after⟩ := event
  dsimp only at step left ⊢
  -- No request comes out of the command.
  have idle (prepared : PreparedRefresh) (middle : Situation) :
      command.perform before ≠ .ok (.prepared (some prepared)) middle := by
    intro ran
    rw [step_eq_ok_iff.2 ran] at step
    cases step
    cases command <;> cases unbuilt
  cases command with
  | prepareRefresh pairs =>
    rw [left, perform, Run.after_bind_pure, Run.after_prepareRefresh]
    intro prepared middle ran
    refine idle prepared middle ?_
    rw [perform, Run.bind_of_ok ran]
    rfl
  | prepareRepeat reference kind operation =>
    rw [left, perform, Run.after_bind_pure]
    refine (Run.asks_prepareRepeat fun prepared middle ran => ?_).form
    refine idle prepared middle ?_
    rw [perform, Run.bind_of_ok ran]
    rfl
  | _ => cases unbuilt

/-- Requests that are not built, one after another, leave the form as it was. -/
theorem form_runAll_of_unbuilt (unbuilt : ∀ event ∈ trace commands s, event.isUnbuilt = true) :
    (runAll commands s).2.form = s.form := by
  induction commands generalizing s with
  | nil => rfl
  | cons command commands ih =>
    have first : ⟨s, command, (command.step s).1, (command.step s).2⟩ ∈
        trace (command :: commands) s := List.mem_cons_self
    have here := form_of_isUnbuilt first (unbuilt _ first)
    rw [trace_cons, List.forall_mem_cons] at unbuilt
    exact (ih unbuilt.2).trans here

/-- The answer to a refresh is about the form alone. -/
theorem step_applyRefresh_of_form_eq (same : later.form = s.form) (prepared : PreparedRefresh)
    (reply : Reply View) :
    ((Command.applyRefresh prepared reply).step later).1 =
        ((Command.applyRefresh prepared reply).step s).1 ∧
      ((Command.applyRefresh prepared reply).step later).2.form =
        ((Command.applyRefresh prepared reply).step s).2.form := by
  obtain ⟨form, surroundings⟩ := s
  obtain ⟨_, others⟩ := later
  cases same
  obtain ⟨ticket, request, container⟩ := prepared
  have past : Situation.isPast ⟨form, others⟩ ticket =
      Situation.isPast ⟨form, surroundings⟩ ticket := rfl
  rw [step_applyRefresh, step_applyRefresh, past]
  split
  · cases container <;> exact ⟨rfl, rfl⟩
  · cases reply with
    | ok view => cases container <;> exact ⟨rfl, rfl⟩
    | error error => cases container <;> cases error <;> exact ⟨rfl, rfl⟩

/-- A good answer to the latest request of an open form is applied. -/
theorem step_applyRefresh_of_latest {prepared : PreparedRefresh} (alive : s.form.alive = true)
    (latest : s.form.tickets.isLatest prepared.ticket = true) (view : View) :
    ((Command.applyRefresh prepared (.ok view)).step s).1 = .ok (.refreshed .applied) := by
  have current : s.isPast prepared.ticket = false := by
    rw [Situation.isPast, alive, latest]
    rfl
  rw [step_applyRefresh, current]
  rfl

end Command

/-- A request that cannot be built changes nothing. A refresh that fails to be prepared leaves the
whole situation as it was. So does a row operation that fails or is cancelled, or it leaves the
situation with one prompt more, which happens only for groups; the form is the same in any case.
Nothing else goes to the server or to the user. And after any number of such requests the answer to
a refresh has the same result, and leaves the same form, as it would have before them; so if the
form is open and the refresh is the latest, it is applied. -/
theorem unbuilt_requests_change_nothing (s : Situation) :
    (∀ pairs error later, Run.prepareRefresh pairs s = .error error later → later = s) ∧
    (∀ reference kind operation later,
      (∃ error, Run.prepareRepeat reference kind operation s = .error error later) ∨
        Run.prepareRepeat reference kind operation s = .ok none later →
      later.form = s.form ∧ (later = s ∨ kind = .group ∧ later = s.asked operation)) ∧
    ∀ commands, (∀ event ∈ Command.trace commands s, event.isUnbuilt = true) →
      let last := (Command.runAll commands s).2
      last.form = s.form ∧
      ∀ prepared reply,
        let answer := Command.applyRefresh prepared reply
        (answer.step last).1 = (answer.step s).1 ∧
        (answer.step last).2.form = (answer.step s).2.form ∧
        (s.form.alive = true → s.form.tickets.isLatest prepared.ticket = true →
          ∀ view, reply = .ok view → (answer.step last).1 = .ok (.refreshed .applied)) := by
  refine ⟨?_, ?_, ?_⟩
  · intro pairs error later failed
    rw [← Run.after_of_error failed]
    apply Run.after_prepareRefresh
    intro prepared middle ran
    rw [failed] at ran
    cases ran
  · intro reference kind operation later ends
    have asks : s.Asks kind operation later := by
      rcases ends with ⟨error, failed⟩ | cancelled
      · rw [← Run.after_of_error failed]
        apply Run.asks_prepareRepeat
        intro prepared middle ran
        rw [failed] at ran
        cases ran
      · rw [← Run.after_of_ok cancelled]
        apply Run.asks_prepareRepeat
        intro prepared middle ran
        rw [cancelled] at ran
        cases ran
    exact ⟨asks.form, asks⟩
  · intro commands unbuilt last
    have same : last.form = s.form := Command.form_runAll_of_unbuilt unbuilt
    refine ⟨same, fun prepared reply => ?_⟩
    obtain ⟨result, form⟩ := Command.step_applyRefresh_of_form_eq same prepared reply
    refine ⟨result, form, ?_⟩
    rintro alive latest view rfl
    rw [result]
    exact Command.step_applyRefresh_of_latest alive latest view

/-- While a refresh is on its way, the user cancels a new entry and a pair cannot be written. The
refresh is applied all the same. -/
theorem refresh_applied_after_unbuilt_requests :
    let waiting := ((Command.prepareRefresh []).step openAction).2
    let pairs : List SetValuePair := [⟨"L(", .null⟩]
    let last := (Command.runAll [.prepareRepeat "G" .group .add, .prepareRefresh pairs] waiting).2
    let prepared : PreparedRefresh := ⟨⟨1⟩, ⟨"C", "A", "B", .obj []⟩, none⟩
    (∃ error, Run.prepareRefresh pairs waiting = .error error waiting) ∧
    (∃ later, Run.prepareRepeat "G" .group .add waiting = .ok none later ∧
      later.form = waiting.form) ∧
    ((Command.applyRefresh prepared (.ok ⟨"", true, [], none⟩)).step last).1 =
      .ok (.refreshed .applied) := by
  intro waiting pairs last prepared
  obtain ⟨refresh, row, requests⟩ := unbuilt_requests_change_nothing waiting
  obtain ⟨error, later, failed⟩ : ∃ error later,
      Run.prepareRefresh pairs waiting = .error error later := ⟨_, _, rfl⟩
  obtain ⟨middle, cancelled⟩ : ∃ middle,
      Run.prepareRepeat "G" .group .add waiting = .ok none middle := ⟨_, rfl⟩
  refine ⟨⟨error, ?_⟩, ⟨middle, cancelled, ?_⟩, ?_⟩
  · rw [refresh pairs error later failed] at failed
    exact failed
  · exact (row "G" .group .add middle (.inr cancelled)).1
  · have unbuilt : ∀ event ∈ Command.trace
        [.prepareRepeat "G" .group .add, .prepareRefresh pairs] waiting,
        event.isUnbuilt = true := List.forall_mem_cons.2 ⟨rfl, List.forall_mem_singleton.2 rfl⟩
    obtain ⟨-, answers⟩ := requests _ unbuilt
    exact (answers prepared (.ok _)).2.2 rfl rfl _ rfl

end CaseForm

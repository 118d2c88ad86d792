import CaseForm.Proofs.Form.Closed

/-!
Loading marks and the row operations that are on their way.

A row operation that is prepared marks its repeating structure, and the answer to it takes the mark
away, whatever becomes of the answer. Nothing else changes the marks of an open form
(`Command.loading_step`): a row operation that is prepared, sent and answered at once takes away the
mark that it has set. So if every answer is to a request that is still without one
(`Event.AnswersOnce`), the marks are the structures of the requests without an answer, one for each
(`Tracked`), and a structure is busy just as long as a request on it has no answer
(`loading_matches_outstanding`).
-/

namespace CaseForm

/-- Taking out a key that was just put in. -/
theorem Table.erase_insert {α : Type} {table : Table α} {key : String}
    (absent : table.contains key = false) (value : α) :
    (table.insert key value).erase key = table := by
  refine Table.ext_get? fun other => ?_
  rw [get?_erase, get?_insert]
  split
  · next same =>
    rw [contains, Option.isSome_eq_false_iff, Option.isNone_iff_eq_none] at absent
    rw [same, absent]
  · rfl

theorem Form.contains_commit {form : Form} {container : Option String} {reference : String} :
    (form.commit container).loading.contains reference = true ↔
      form.loading.contains reference = true ∨ container = some reference := by
  cases container with
  | none => simp [commit]
  | some place =>
    rw [Option.some.injEq, eq_comm (a := place)]
    by_cases same : reference = place <;> simp [commit, Table.contains, same]

theorem Situation.contains_release {s : Situation} {container : Option String}
    {reference : String} :
    (s.release container).form.loading.contains reference = true ↔
      s.form.loading.contains reference = true ∧ container ≠ some reference := by
  cases container with
  | none => simp [release]
  | some place =>
    rw [ne_eq, Option.some.injEq, eq_comm (a := place)]
    by_cases same : reference = place <;> simp [release, Table.contains, same]

/-! ### Commands and loading marks -/

namespace Run

/-- What leaves the loading marks of a form as they are. -/
theorem frame_loading : Frame fun s later : Situation => later.form.loading = s.form.loading where
  refl _ := rfl
  trans first second := second.trans first
  surroundings _ _ _ := rfl
  errors _ _ := rfl
  issued _ := rfl

theorem loading_after_setActiveAction (actionId : String) :
    (setActiveAction actionId).Keeps fun s later => later.form.loading = s.form.loading :=
  frame_loading.bind frame_loading.boundAssignment fun _ _ => rfl

theorem work_loading :
    WorkFrame fun s later : Situation => later.form.loading = s.form.loading where
  toFrame := frame_loading
  shown _ _ _ := rfl
  loadAction := frame_loading.loadAction loading_after_setActiveAction fun _ _ => rfl

theorem loading_after_rebind (source : FormSource) :
    (rebind source).Keeps fun s later => later.form.loading = s.form.loading :=
  frame_loading.rebind fun _ _ => by cases source <;> rfl

/-- An answer takes away the mark of its own request, whatever becomes of it. -/
theorem loading_after_applyRefresh (prepared : PreparedRefresh) (reply : Reply View)
    (s : Situation) :
    ((applyRefresh prepared reply).after s).form.loading =
      (s.release prepared.container).form.loading := by
  rw [after, applyRefresh_eq, ← after]
  exact frame_loading.settle work_loading.revisit prepared.ticket reply _

/-- Sending a refresh brings an answer, and does nothing about the form. -/
theorem sendRefresh_eq_ok (prepared : PreparedRefresh) (s : Situation) :
    ∃ reply later, sendRefresh prepared s = .ok reply later ∧ later.form = s.form := by
  change ∃ reply later, (if s.form.session.isActive then _ else _ : Run (Reply View)) s =
    .ok reply later ∧ later.form = s.form
  cases s.form.session.isActive <;> exact ⟨_, _, rfl, rfl⟩

/-- A row operation that is sent and answered at once leaves the loading marks as it found them,
however it ends. -/
theorem loading_after_editRepeat (reference : String) (kind : RepeatKind)
    (operation : RepeatOperation) (s : Situation) :
    ((editRepeat reference kind operation).after s).form.loading = s.form.loading := by
  rw [editRepeat, after_bind]
  by_cases ready : ∃ prepared middle,
      prepareRepeat reference kind operation s = .ok (some prepared) middle
  · obtain ⟨prepared, middle, ran⟩ := ready
    have prepares := prepares_of_prepareRepeat ran
    obtain ⟨_, _, -, marked, -⟩ := prepareRepeat_eq_ok_some_iff.1 ran
    have container : prepared.container = some reference := by rw [← marked]
    obtain ⟨reply, later, sent, same⟩ := sendRefresh_eq_ok prepared middle
    rw [ran]
    change ((sendRefresh prepared >>= fun reply => applyRefresh prepared reply).after
      middle).form.loading = _
    rw [after, bind_of_ok sent, ← after, loading_after_applyRefresh, container]
    change later.form.loading.erase reference = _
    rw [same, prepares.form, container]
    exact Table.erase_insert (prepares.free reference container) ()
  · have idle := form_after_prepareRepeat (s := s) fun prepared middle ran =>
      ready ⟨prepared, middle, ran⟩
    rw [after] at idle
    cases ran : prepareRepeat reference kind operation s with
    | error error middle =>
      rw [ran] at idle
      rw [idle]
    | ok prepared middle =>
      rw [ran] at idle
      cases prepared with
      | none => exact congrArg Form.loading idle
      | some prepared => exact absurd ⟨prepared, middle, ran⟩ ready

end Run

namespace Command

variable {s : Situation} {command : Command}

/-- The marks of an open form are changed by preparing a request and by answering one only. -/
theorem loading_step
    (unprepared : ∀ prepared later, command.step s ≠ (.ok (.prepared (some prepared)), later))
    (unanswered : ∀ prepared reply, command ≠ .applyRefresh prepared reply)
    (stays : (command.step s).2.form.alive = true) :
    (command.step s).2.form.loading = s.form.loading := by
  rw [step_snd]
  cases command with
  | prepareRepeat reference kind operation =>
    rw [perform, Run.after_bind_pure]
    refine congrArg Form.loading (Run.form_after_prepareRepeat fun prepared later ran => ?_)
    exact unprepared prepared later (step_eq_ok_iff.2 (Run.bind_of_ok ran))
  | applyRefresh prepared reply => exact absurd rfl (unanswered prepared reply)
  | editRepeat reference kind operation =>
    rw [perform, Run.after_bind_pure, Run.loading_after_editRepeat]
  | setActiveAction actionId =>
    rw [perform, Run.after_bind_pure, Run.loading_after_setActiveAction]
  | rebind source => rw [perform, Run.after_bind_pure, Run.loading_after_rebind]
  | cancel =>
    rw [alive_step] at stays
    simp [closes] at stays
  | endSession => rfl
  | _ => exact Run.work_loading.perform rfl s

end Command

/-! ### Requests without an answer -/

namespace Event

/-- The refresh that the event answers. -/
def answered? (event : Event) : Option PreparedRefresh :=
  match event.command with
  | .applyRefresh prepared _ => some prepared
  | _ => none

/-- A refresh that was prepared in a run and had no answer in it. -/
def Outstanding (events : List Event) (prepared : PreparedRefresh) : Prop :=
  prepared ∈ events.filterMap prepared? ∧ prepared ∉ events.filterMap answered?

/-- Every answer in a run is to a refresh that was prepared before it in the run and had no answer
until then. -/
def AnswersOnce (events : List Event) : Prop :=
  ∀ earlier event later prepared, events = earlier ++ event :: later →
    event.answered? = some prepared → Outstanding earlier prepared

variable {events : List Event} {event : Event} {prepared : PreparedRefresh}

theorem mem_filterMap_append {found? : Event → Option PreparedRefresh} :
    prepared ∈ (events ++ [event]).filterMap found? ↔
      prepared ∈ events.filterMap found? ∨ found? event = some prepared := by
  simp

/-- What is outstanding after one more event of a run: what was before or has just been prepared,
and is not answered by the event. -/
theorem outstanding_append :
    Outstanding (events ++ [event]) prepared ↔
      (prepared ∈ events.filterMap prepared? ∨ event.prepared? = some prepared) ∧
        prepared ∉ events.filterMap answered? ∧ event.answered? ≠ some prepared := by
  rw [Outstanding, mem_filterMap_append, mem_filterMap_append, not_or]

theorem answersOnce_nil : AnswersOnce [] := by
  intro earlier event later prepared split
  exact absurd split (List.append_ne_nil_of_right_ne_nil _ (List.cons_ne_nil _ _)).symm

/-- A run that goes on with an event answers once if it did so before and what the event answers is
outstanding. -/
theorem answersOnce_append (once : AnswersOnce events)
    (answers : ∀ prepared, event.answered? = some prepared → Outstanding events prepared) :
    AnswersOnce (events ++ [event]) := by
  rintro earlier answer later prepared split same
  rcases List.eq_nil_or_concat later with rfl | ⟨later, last, rfl⟩
  · obtain ⟨rfl, rfl⟩ := List.append_singleton_inj.1 split
    exact answers prepared same
  · rw [List.concat_eq_append, ← List.cons_append, ← List.append_assoc] at split
    exact once earlier answer later prepared (List.append_singleton_inj.1 split).1 same

/-- The event of a command. -/
def of (command : Command) (s : Situation) : Event :=
  ⟨s, command, (command.step s).1, (command.step s).2⟩

theorem prepares_of (command : Command) (s : Situation)
    (ready : (of command s).prepared? = some prepared) :
    Run.Prepares prepared s (command.step s).2 := by
  have mem : of command s ∈ Command.trace [command] s := List.mem_singleton_self _
  exact Command.prepares_of_event mem ready

/-- An answer prepares nothing. -/
theorem prepared?_of_answer {command : Command} {s : Situation}
    (answer : (of command s).answered? = some prepared) : (of command s).prepared? = none := by
  cases command with
  | applyRefresh other reply =>
    have step := Command.step_applyRefresh other reply s
    rw [prepared?, of, step]
    cases s.isPast other.ticket <;> cases reply <;> rfl
  | _ => cases answer

end Event

/-! ### One mark for each request -/

open Event (Outstanding)

/-- What holds of the requests of a run: they take their tickets upwards, and only those that were
prepared are answered. -/
structure Recorded (events : List Event) (s : Situation) : Prop where
  increasing : (events.filterMap Event.prepared?).Pairwise fun prepared later =>
    prepared.ticket.seq < later.ticket.seq
  issued : ∀ prepared ∈ events.filterMap Event.prepared?,
    prepared.ticket.seq ≤ s.form.tickets.latest
  known : ∀ prepared ∈ events.filterMap Event.answered?,
    prepared ∈ events.filterMap Event.prepared?

/-- What holds of the marks besides: those of an open form are the structures of the requests
without an answer, and these are different structures. -/
structure Tracked (events : List Event) (s : Situation) : Prop extends Recorded events s where
  marks : s.form.alive = true → ∀ reference, s.form.loading.contains reference = true ↔
    ∃ prepared, Outstanding events prepared ∧ prepared.container = some reference
  apart : ∀ prepared other reference, Outstanding events prepared → Outstanding events other →
    prepared.container = some reference → other.container = some reference → prepared = other

/-- A form begins without requests and without marks. -/
theorem Tracked.nil {s : Situation} (unmarked : s.form.loading = .empty) : Tracked [] s where
  increasing := .nil
  issued := nofun
  known := nofun
  marks _ reference := by
    rw [unmarked]
    constructor
    · intro absurd
      cases absurd
    · rintro ⟨prepared, ⟨absurd, -⟩, -⟩
      cases absurd
  apart _ _ _ := fun ⟨absurd, _⟩ => nomatch absurd

section Steps

variable {events : List Event} {s : Situation} {command : Command} {prepared : PreparedRefresh}

theorem Recorded.step (recorded : Recorded events s)
    (answers : ∀ prepared, (Event.of command s).answered? = some prepared →
      Outstanding events prepared) :
    Recorded (events ++ [Event.of command s]) (command.step s).2 where
  increasing := by
    rw [List.filterMap_append, List.pairwise_append]
    refine ⟨recorded.increasing, List.pairwise_filterMap.2 (List.pairwise_singleton _ _), ?_⟩
    intro earlier before prepared here
    obtain ⟨event, mem, ready⟩ := List.mem_filterMap.1 here
    obtain rfl := List.mem_singleton.1 mem
    have within := recorded.issued earlier before
    rw [(Event.prepares_of command s ready).ticket]
    exact Nat.lt_succ_of_le within
  issued prepared mem := by
    have forward := (Command.advances command s).latest
    rw [← Command.step_snd] at forward
    rcases Event.mem_filterMap_append.1 mem with before | ready
    · exact Nat.le_trans (recorded.issued prepared before) forward
    · exact Nat.le_of_eq (Event.prepares_of command s ready).holds.1.symm
  known prepared mem := by
    refine Event.mem_filterMap_append.2 (.inl ?_)
    rcases Event.mem_filterMap_append.1 mem with before | answer
    · exact recorded.known prepared before
    · exact (answers prepared answer).1

/-- A request that is prepared has not been prepared or answered before. -/
theorem Recorded.fresh (recorded : Recorded events s)
    (ready : (Event.of command s).prepared? = some prepared) :
    prepared ∉ events.filterMap Event.prepared? := by
  intro before
  have within := recorded.issued prepared before
  rw [(Event.prepares_of command s ready).ticket] at within
  exact absurd within (Nat.not_succ_le_self _)

/-- A request that is prepared is outstanding besides those that were before. -/
theorem Recorded.outstanding_prepare (recorded : Recorded events s)
    (ready : (Event.of command s).prepared? = some prepared) {other : PreparedRefresh} :
    Outstanding (events ++ [Event.of command s]) other ↔
      Outstanding events other ∨ prepared = other := by
  have silent : (Event.of command s).answered? = none := by
    cases answer : (Event.of command s).answered? with
    | none => rfl
    | some answered =>
      rw [Event.prepared?_of_answer answer] at ready
      cases ready
  have unanswered : prepared ∉ events.filterMap Event.answered? :=
    fun absurd => recorded.fresh ready (recorded.known prepared absurd)
  rw [Event.outstanding_append, ready, silent, Outstanding, Option.some.injEq]
  constructor
  · rintro ⟨before | rfl, waits, -⟩
    · exact .inl ⟨before, waits⟩
    · exact .inr rfl
  · rintro (⟨before, waits⟩ | rfl)
    · exact ⟨.inl before, waits, nofun⟩
    · exact ⟨.inr rfl, unanswered, nofun⟩

/-- An event that prepares nothing leaves outstanding what it does not answer. -/
theorem Event.outstanding_of_unprepared {event : Event} (unprepared : event.prepared? = none)
    {other : PreparedRefresh} :
    Outstanding (events ++ [event]) other ↔
      Outstanding events other ∧ event.answered? ≠ some other := by
  rw [Event.outstanding_append, unprepared, Outstanding, and_assoc]
  simp

/-- A request that is prepared marks a structure that no other marks. -/
theorem Tracked.prepare (tracked : Tracked events s)
    (ready : (Event.of command s).prepared? = some prepared)
    (recorded : Recorded (events ++ [Event.of command s]) (command.step s).2) :
    Tracked (events ++ [Event.of command s]) (command.step s).2 := by
  have prepares := Event.prepares_of command s ready
  have alone (other : PreparedRefresh) (reference : String) (waits : Outstanding events other)
      (here : prepared.container = some reference) : other.container ≠ some reference := by
    intro there
    have marked := (tracked.marks prepares.alive reference).2 ⟨other, waits, there⟩
    rw [prepares.free reference here] at marked
    cases marked
  refine ⟨recorded, fun _ reference => ?_, ?_⟩
  · rw [prepares.form, Form.contains_commit, tracked.marks prepares.alive]
    simp only [tracked.outstanding_prepare ready, or_and_right, exists_or, exists_eq_left']
  · intro one other reference first second here there
    rw [tracked.outstanding_prepare ready] at first second
    rcases first with first | rfl <;> rcases second with second | rfl
    · exact tracked.apart one other reference first second here there
    · exact absurd here (alone one reference first there)
    · exact absurd there (alone other reference second here)
    · rfl

/-- An answer takes away the mark of its request, which no other has. -/
theorem Tracked.answer (tracked : Tracked events s) (waits : Outstanding events prepared)
    (answer : (Event.of command s).answered? = some prepared)
    (recorded : Recorded (events ++ [Event.of command s]) (command.step s).2) :
    Tracked (events ++ [Event.of command s]) (command.step s).2 := by
  have outstanding {other : PreparedRefresh} :
      Outstanding (events ++ [Event.of command s]) other ↔
        Outstanding events other ∧ prepared ≠ other := by
    rw [Event.outstanding_of_unprepared (Event.prepared?_of_answer answer), answer, ne_eq,
      Option.some.injEq]
  refine ⟨recorded, fun stays reference => ?_, fun one other reference first second => ?_⟩
  · rw [Command.alive_step, Bool.and_eq_true] at stays
    have released : (command.step s).2.form.loading =
        (s.release prepared.container).form.loading := by
      cases command with
      | applyRefresh other reply =>
        cases answer
        rw [Command.step_snd, Command.perform, Run.after_bind_pure, Run.loading_after_applyRefresh]
      | _ => cases answer
    rw [released, Situation.contains_release, tracked.marks stays.1]
    constructor
    · rintro ⟨⟨other, waiting, there⟩, apart⟩
      refine ⟨other, outstanding.2 ⟨waiting, ?_⟩, there⟩
      rintro rfl
      exact apart there
    · rintro ⟨other, waiting, there⟩
      obtain ⟨waiting, different⟩ := outstanding.1 waiting
      refine ⟨⟨other, waiting, there⟩, fun here => different ?_⟩
      exact tracked.apart prepared other reference waits waiting here there
  · exact tracked.apart one other reference (outstanding.1 first).1 (outstanding.1 second).1

/-- Any other command leaves the requests and the marks of an open form as they are. -/
theorem Tracked.pass (tracked : Tracked events s)
    (unprepared : (Event.of command s).prepared? = none)
    (unanswered : (Event.of command s).answered? = none)
    (recorded : Recorded (events ++ [Event.of command s]) (command.step s).2) :
    Tracked (events ++ [Event.of command s]) (command.step s).2 := by
  have outstanding {other : PreparedRefresh} :
      Outstanding (events ++ [Event.of command s]) other ↔ Outstanding events other := by
    rw [Event.outstanding_of_unprepared unprepared, unanswered]
    simp
  refine ⟨recorded, fun stays reference => ?_, fun one other reference first second => ?_⟩
  · have kept : (command.step s).2.form.loading = s.form.loading := by
      refine Command.loading_step ?_ ?_ stays
      · intro prepared later ready
        rw [Event.prepared?, Event.of, ready] at unprepared
        cases unprepared
      · rintro prepared reply rfl
        cases unanswered
    rw [Command.alive_step, Bool.and_eq_true] at stays
    rw [kept, tracked.marks stays.1]
    simp only [outstanding]
  · exact tracked.apart one other reference (outstanding.1 first) (outstanding.1 second)

/-- One command after a run. -/
theorem Tracked.step (tracked : Tracked events s)
    (answers : ∀ prepared, (Event.of command s).answered? = some prepared →
      Outstanding events prepared) :
    Tracked (events ++ [Event.of command s]) (command.step s).2 := by
  have recorded := tracked.toRecorded.step answers
  cases ready : (Event.of command s).prepared? with
  | some prepared => exact tracked.prepare ready recorded
  | none =>
    cases answer : (Event.of command s).answered? with
    | some prepared => exact tracked.answer (answers prepared answer) answer recorded
    | none => exact tracked.pass ready answer recorded

/-- Commands after a run. -/
theorem Tracked.runAll (commands : List Command) (tracked : Tracked events s)
    (once : Event.AnswersOnce (events ++ Command.trace commands s)) :
    Tracked (events ++ Command.trace commands s) (Command.runAll commands s).2 := by
  induction commands generalizing events s with
  | nil =>
    rw [Command.trace, List.append_nil]
    exact tracked
  | cons command commands ih =>
    have here : Tracked (events ++ [Event.of command s]) (command.step s).2 :=
      tracked.step fun prepared => once events (Event.of command s) _ prepared rfl
    rw [Command.trace_cons, List.append_cons] at once ⊢
    exact ih here once

end Steps

/-- The loading marks of a form are the row operations that are on their way. In every run that
answers a request once at most, and as long as the form is open: the structures that are marked are
those of the prepared row operations without an answer; no two of these are on one structure; and a
row operation is refused as busy just if there is one on the same structure. A row operation that is
prepared, sent and answered at once leaves the marks as it finds them, whatever becomes of it, and a
form that was closed has none. -/
theorem loading_matches_outstanding {s : Situation} (started : Started s) (commands : List Command)
    (once : Event.AnswersOnce (Command.trace commands s)) :
    let events := Command.trace commands s
    let last := (Command.runAll commands s).2
    (last.form.alive = true →
      (∀ reference, last.form.loading.contains reference = true ↔
        ∃ prepared, Outstanding events prepared ∧ prepared.container = some reference) ∧
      ∀ reference kind operation place,
        ((Command.prepareRepeat reference kind operation).step last).1 =
            .error (.repeatBusy place) ↔
          (∃ prepared, Outstanding events prepared ∧ prepared.container = some reference) ∧
            reference = place) ∧
    (events.filterMap Event.prepared?).Pairwise (fun prepared later =>
      prepared.ticket.seq < later.ticket.seq) ∧
    (∀ prepared other reference, Outstanding events prepared → Outstanding events other →
      prepared.container = some reference → other.container = some reference →
        prepared = other) ∧
    (∀ reference kind operation,
      ((Command.editRepeat reference kind operation).step last).2.form.loading =
        last.form.loading) ∧
    (.cancel ∈ commands → last.form.loading = .empty) := by
  intro events last
  have tracked : Tracked events last := (Tracked.nil started.form_eq.2).runAll commands once
  refine ⟨fun alive => ⟨tracked.marks alive, ?_⟩, tracked.increasing, tracked.apart, ?_, ?_⟩
  · intro reference kind operation place
    rw [← tracked.marks alive, ← Run.prepareRepeat_eq_busy_iff alive, Command.step,
      Command.perform]
    cases ran : Run.prepareRepeat reference kind operation last with
    | ok prepared later => rw [Run.bind_of_ok ran]; simp [pure, EStateM.pure]
    | error error later => rw [Run.bind_of_error ran]; simp
  · intro reference kind operation
    rw [Command.step_snd, Command.perform, Run.after_bind_pure, Run.loading_after_editRepeat]
  · intro closes
    refine Command.unmarked_runAll commands (fun absurd => ?_) ?_
    · rw [started.form_eq.1] at absurd
      cases absurd
    · rw [Command.alive_runAll, List.any_eq_true.2 ⟨_, closes, rfl⟩, Bool.not_true,
        Bool.and_false]

/-- Of two row operations that are on their way one is answered: its structure is free again, and
the other is busy still. -/
theorem loading_after_one_answer :
    let prepared : PreparedRefresh :=
      ⟨⟨1⟩, ⟨"C", "A", "B", .obj [("L", .arr [.obj []])]⟩, some "L"⟩
    let commands : List Command := [.prepareRepeat "L" .list .add, .prepareRepeat "M" .list .add,
      .applyRefresh prepared (.error noReply)]
    let last := (Command.runAll commands openAction).2
    Event.AnswersOnce (Command.trace commands openAction) ∧
    ((Command.prepareRepeat "M" .list .remove).step last).1 = .error (.repeatBusy "M") ∧
    ((Command.prepareRepeat "L" .list .remove).step last).1 ≠ .error (.repeatBusy "L") := by
  intro prepared commands last
  have once : Event.AnswersOnce (Command.trace commands openAction) := by
    change Event.AnswersOnce ([] ++ [_] ++ [_] ++ [_])
    refine Event.answersOnce_append (Event.answersOnce_append
      (Event.answersOnce_append Event.answersOnce_nil ?_) ?_) ?_
    · rintro _ ⟨⟩
    · rintro _ ⟨⟩
    · rintro _ ⟨⟩
      exact ⟨List.mem_cons_self, nofun⟩
  obtain ⟨marks, busy⟩ := (loading_matches_outstanding started_openAction commands once).1 rfl
  have marked : last.form.loading.contains "M" = true := rfl
  have free : last.form.loading.contains "L" = false := rfl
  refine ⟨once, (busy _ _ _ _).2 ⟨(marks "M").1 marked, rfl⟩, fun refused => ?_⟩
  have waits := (marks "L").2 ((busy _ _ _ _).1 refused).1
  rw [free] at waits
  cases waits

end CaseForm

import CaseForm.Proofs.Form.Drafting
import CaseForm.Proofs.Form.Trace

/-!
Late answers.

An answer to a refresh counts only while its ticket is the latest and the form is open. Tickets are
issued upwards and a closed form stays closed, so an answer that is late once stays late
(`Advances`). What else issues tickets makes the refreshes late that were prepared before it:
another source, another action, and a submission that is sent.

* `Command.advances`: every command leads forward;
* `Run.Prepares.holds`: a refresh holds the latest ticket when it is prepared;
* `late_answers`: what this says of a whole run.
-/

namespace CaseForm

/-- What holds from a situation to a later one: tickets go up, a closed form stays closed, and
between a form on an assignment and one on none a ticket was issued. -/
structure Advances (s later : Situation) : Prop where
  latest : s.form.tickets.latest ≤ later.form.tickets.latest
  closed : s.form.alive = false → later.form.alive = false
  unbound : later.form.assignment = none →
    s.form.assignment = none ∨ s.form.tickets.latest < later.form.tickets.latest

namespace Advances

variable {s later : Situation}

/-- A change that issues no ticket, opens no form and unbinds none leads forward. -/
theorem of_eq (tickets : later.form.tickets = s.form.tickets)
    (closed : s.form.alive = false → later.form.alive = false)
    (unbound : later.form.assignment = none → s.form.assignment = none) : Advances s later where
  latest := Nat.le_of_eq (by rw [tickets])
  closed := closed
  unbound := fun none => .inl (unbound none)

theorem frame : Run.MarkFrame Advances where
  refl _ := of_eq rfl id id
  trans := by
    intro a b c first second
    refine ⟨Nat.le_trans first.latest second.latest, second.closed ∘ first.closed, ?_⟩
    intro none
    rcases second.unbound none with unbound | later
    · rcases first.unbound unbound with unbound | earlier
      · exact .inl unbound
      · exact .inr (Nat.lt_of_lt_of_le earlier second.latest)
    · exact .inr (Nat.lt_of_le_of_lt first.latest later)
  surroundings _ _ _ := of_eq rfl id id
  errors _ _ := of_eq rfl id id
  loading _ _ := of_eq rfl id id
  issued _ := ⟨Nat.le_succ _, id, .inl⟩

/-- What is past stays past. -/
theorem isPast (advances : Advances s later) {ticket : Ticket}
    (within : ticket.seq ≤ s.form.tickets.latest) (past : s.isPast ticket = true) :
    later.isPast ticket = true := by
  have forward := advances.latest
  simp only [Situation.isPast, Tickets.isLatest, Bool.or_eq_true, Bool.not_eq_true',
    beq_eq_false_iff_ne] at past ⊢
  rcases past with closed | earlier
  · exact .inl (advances.closed closed)
  · right
    omega

end Advances

/-! ### Every command leads forward -/

namespace Run

open Advances (frame)

theorem advances_setActiveAction (actionId : String) :
    (setActiveAction actionId).Keeps Advances := by
  refine frame.bind frame.boundAssignment fun context => ?_
  intro s
  exact .of_eq rfl id fun none => by cases none

theorem advances_receiveView (context : AssignmentContext) (actionId : String) :
    (receiveView context actionId).Keeps Advances :=
  frame.receiveView advances_setActiveAction (fun _ _ => .of_eq rfl id id) context actionId

theorem advances_work : WorkFrame Advances where
  toFrame := frame.toFrame
  shown _ _ _ := .of_eq rfl id id
  loadAction := frame.loadAction advances_setActiveAction fun _ _ => .of_eq rfl id id

/-- Another source may be bound to no assignment, and then issues a ticket. -/
theorem advances_rebind (source : FormSource) : (rebind source).Keeps Advances :=
  frame.rebind fun _ alive =>
    ⟨Nat.le_succ _, fun closed => absurd alive (Bool.eq_false_iff.1 closed),
      fun _ => .inr (Nat.lt_succ_self _)⟩

theorem advances_cancel : cancel.Keeps Advances :=
  frame.cancel fun _ _ => .of_eq rfl (fun _ => rfl) id

end Run

namespace Command

open Advances (frame)

/-- Every command leads forward. -/
theorem advances (command : Command) : command.perform.Keeps Advances := by
  have work := Run.advances_work
  cases command with
  | prepareRepeat | applyRefresh | editRepeat => exact frame.perform work rfl
  | setActiveAction actionId =>
    exact frame.bind (Run.advances_setActiveAction actionId) fun _ => frame.pure _
  | rebind source => exact frame.bind (Run.advances_rebind source) fun _ => frame.pure _
  | cancel => exact frame.bind Run.advances_cancel fun _ => frame.pure _
  | endSession =>
    refine frame.bind ?_ fun _ => frame.pure _
    exact fun s => .of_eq rfl id id
  | _ => exact work.perform rfl

end Command

/-! ### What is prepared and what makes it late -/

namespace Run

variable {s s' : Situation} {prepared : PreparedRefresh}

/-- A refresh that has just been prepared holds the latest ticket, on an assignment. -/
def Holds (prepared : PreparedRefresh) (s : Situation) : Prop :=
  s.form.tickets.latest = prepared.ticket.seq ∧ s.form.assignment ≠ none

theorem Prepares.holds (prepares : Prepares prepared s s') : Holds prepared s' := by
  obtain ⟨context, content, bound, -⟩ := prepares.request
  rw [Holds, prepares.form, prepares.ticket]
  exact ⟨rfl, by simp [Form.commit, bound]⟩

/-! ### What makes earlier requests late -/

open Advances (frame)

variable {ticket : Ticket}

theorem isPast_of_lt (earlier : ticket.seq < s.form.tickets.latest) : s.isPast ticket = true := by
  have other : ticket.seq ≠ s.form.tickets.latest := Nat.ne_of_lt earlier
  simp [Situation.isPast, Tickets.isLatest, other]

theorem isPast_of_closed (closed : s.form.alive = false) (ticket : Ticket) :
    s.isPast ticket = true := by
  simp [Situation.isPast, closed]

/-- What leads forward from a situation with one more ticket is past all earlier ones. -/
theorem isPast_of_issued {forms : Form} (issued : forms.tickets = s.form.tickets.issue.2)
    (forward : Advances { s with form := forms } s')
    (within : ticket.seq ≤ s.form.tickets.latest) : s'.isPast ticket = true := by
  have next := forward.latest
  apply isPast_of_lt
  simp only [issued, Tickets.issue] at next
  omega

theorem isPast_after_rebind (source : FormSource) (within : ticket.seq ≤ s.form.tickets.latest) :
    ((rebind source).after s).isPast ticket = true := by
  cases alive : s.form.alive with
  | true =>
    rw [after_of_ok (rebind_of_alive alive source)]
    exact isPast_of_issued rfl (frame.refl _) within
  | false =>
    rw [after_of_error (rebind_of_closed alive source)]
    exact isPast_of_closed alive ticket

/-- An action issues a ticket if the form is on an assignment. -/
theorem isPast_after_performAction (actionId : String)
    (within : ticket.seq ≤ s.form.tickets.latest)
    (unbound : s.form.assignment = none → s.isPast ticket = true) :
    ((performAction actionId).after s).isPast ticket = true := by
  by_cases past : s.isPast ticket = true
  · exact (advances_work.performAction actionId s).isPast within past
  · have alive : s.form.alive = true := by
      rw [← Bool.not_eq_false]
      exact fun closed => past (isPast_of_closed closed ticket)
    cases bound : s.form.assignment with
    | none => exact absurd (unbound bound) past
    | some context =>
      have same : (performAction actionId).after s = (receiveView context actionId).after
          { s with form := { s.form with tickets := s.form.tickets.issue.2 } } := by
        rw [after, performAction, bind_of_ok (ensureAlive_of_alive alive),
          loadAction_of_bound bound]
        rfl
      rw [same]
      exact isPast_of_issued rfl (advances_receiveView context actionId _) within

theorem isPast_after_submit {context : AssignmentContext} {content : Json}
    (alive : s.form.alive = true) (bound : s.form.assignment = some context)
    (nested : s.form.document = .ok content) (within : ticket.seq ≤ s.form.tickets.latest) :
    (submit.after s).isPast ticket = true := by
  rw [after, submit_of_bound alive bound nested]
  exact isPast_of_issued rfl (advances_work.sendSubmission context content _) within

end Run

/-! ### Events that bear on late answers -/

namespace Event

/-- The event is an answer whose ticket is past. -/
def isLate (event : Event) : Bool :=
  match event.command with
  | .applyRefresh prepared _ => event.before.isPast prepared.ticket
  | _ => false

/-- The event is a late answer to a refresh without a loading mark. -/
def isIdle (event : Event) : Bool :=
  match event.command with
  | .applyRefresh prepared _ =>
    event.before.isPast prepared.ticket && prepared.container.isNone
  | _ => false

/-- The ticket whose answer took effect: its view was applied, or its error was reported. -/
def effect? (event : Event) : Option Nat :=
  match event.command, event.result with
  | .applyRefresh prepared _, .ok (.refreshed .applied) => some prepared.ticket.seq
  | .applyRefresh prepared _, .error _ => some prepared.ticket.seq
  | _, _ => none

/-- The refresh that the event prepared. -/
def prepared? (event : Event) : Option PreparedRefresh :=
  match event.result with
  | .ok (.prepared refresh) => refresh
  | _ => none

/-- The event makes all requests before it late: the form takes another source or another action,
or a submission is sent. -/
def Supersedes (event : Event) : Prop :=
  match event.command with
  | .rebind _ | .performAction _ => True
  | .submit =>
    event.before.form.alive = true ∧ (∃ context, event.before.form.assignment = some context) ∧
      ∃ content, event.before.form.document = .ok content
  | _ => False

end Event

namespace Command

variable {commands : List Command} {s : Situation} {event : Event}

/-- What an answer to a refresh does is told by whether its ticket is past. -/
theorem step_applyRefresh (prepared : PreparedRefresh) (reply : Reply View) (s : Situation) :
    (Command.applyRefresh prepared reply).step s =
      if s.isPast prepared.ticket then
        (.ok (.refreshed (if s.form.alive then .superseded else .disposed)),
          s.release prepared.container)
      else
        match reply with
        | .ok view =>
          (.ok (.refreshed .applied), { s.release prepared.container with
            form := (s.release prepared.container).form.revisit view })
        | .error error =>
          (.error (.transport error), (Run.report error).after (s.release prepared.container)) := by
  have alive : (s.release prepared.container).form.alive = s.form.alive := by
    cases prepared.container <;> rfl
  have past : (s.release prepared.container).isPast prepared.ticket = s.isPast prepared.ticket := by
    cases prepared.container <;> rfl
  rw [step, perform]
  cases late : s.isPast prepared.ticket with
  | true =>
    rw [late] at past
    have settled := Run.settle_of_isPast past reply
    rw [← Run.applyRefresh_eq, alive] at settled
    rw [Run.bind_of_ok settled]
    rfl
  | false =>
    rw [late] at past
    have settled := Run.settle_of_current past reply
    rw [← Run.applyRefresh_eq] at settled
    cases reply with
    | ok view =>
      rw [Run.bind_of_ok settled]
      rfl
    | error error =>
      rw [Run.bind_of_error settled]
      rfl

theorem step_eq_ok_iff {command : Command} {outcome : Outcome} {later : Situation} :
    command.step s = (.ok outcome, later) ↔ command.perform s = .ok outcome later := by
  rw [step]
  cases command.perform s <;> simp

/-- Requests are prepared by two commands. -/
theorem prepares_of_step {command : Command} {prepared : PreparedRefresh} {later : Situation}
    (ready : command.step s = (.ok (.prepared (some prepared)), later)) :
    Run.Prepares prepared s later := by
  rw [step_eq_ok_iff] at ready
  cases command <;>
    simp only [perform, Run.bind_eq_ok_iff, Run.pure_eq_ok_iff, Outcome.prepared.injEq,
      Option.some.injEq, reduceCtorEq, false_and, and_false, exists_false] at ready
  case prepareRefresh pairs =>
    obtain ⟨_, _, ran, rfl, rfl⟩ := ready
    exact Run.prepares_of_prepareRefresh ran
  case prepareRepeat reference kind operation =>
    obtain ⟨_, _, ran, rfl, rfl⟩ := ready
    exact Run.prepares_of_prepareRepeat ran

/-- A refresh that an event has prepared holds the latest ticket after it. -/
theorem prepares_of_event (mem : event ∈ trace commands s) {prepared : PreparedRefresh}
    (ready : event.prepared? = some prepared) :
    Run.Prepares prepared event.before event.after := by
  obtain ⟨before, command, result, after⟩ := event
  have step := step_of_mem_trace mem
  unfold Event.prepared? at ready
  split at ready
  · next answer =>
    dsimp only at step answer
    subst answer ready
    exact prepares_of_step step
  · cases ready

/-- An answer that takes effect is to the latest ticket. -/
theorem latest_of_effect (mem : event ∈ trace commands s) {seq : Nat}
    (effect : event.effect? = some seq) : event.before.form.tickets.latest = seq := by
  obtain ⟨before, command, result, after⟩ := event
  have step := step_of_mem_trace mem
  cases command with
  | applyRefresh prepared reply =>
    dsimp only at step
    rw [step_applyRefresh] at step
    cases past : before.isPast prepared.ticket with
    | true =>
      rw [past, if_pos rfl, Prod.mk.injEq] at step
      rw [← step.1] at effect
      cases alive : before.form.alive <;> simp [Event.effect?, alive] at effect
    | false =>
      have latest : prepared.ticket.seq = before.form.tickets.latest := by
        simpa [Situation.isPast, Tickets.isLatest] using (Bool.or_eq_false_iff.1 past).2
      unfold Event.effect? at effect
      split at effect
      · next same _ =>
        cases same
        cases effect
        exact latest.symm
      · next same _ =>
        cases same
        cases effect
        exact latest.symm
      · cases effect
  | _ => simp [Event.effect?] at effect

/-- A late answer is dropped, and releases its loading mark only. -/
theorem answer_of_late (mem : event ∈ trace commands s) (late : event.isLate = true) :
    ∃ prepared reply, event.command = .applyRefresh prepared reply ∧
      (event.result = .ok (.refreshed .superseded) ∨
        event.result = .ok (.refreshed .disposed)) ∧
      event.after = event.before.release prepared.container := by
  obtain ⟨before, command, result, after⟩ := event
  have step := step_of_mem_trace mem
  cases command with
  | applyRefresh prepared reply =>
    dsimp only at step
    have past : before.isPast prepared.ticket = true := late
    rw [step_applyRefresh, if_pos past, Prod.mk.injEq] at step
    obtain ⟨rfl, rfl⟩ := step
    refine ⟨prepared, reply, rfl, ?_, rfl⟩
    cases before.form.alive
    · exact .inr rfl
    · exact .inl rfl
  | _ => cases late

/-- Requests that are no later than an event that supersedes them are past after it. -/
theorem isPast_after_supersedes (mem : event ∈ trace commands s) (supersedes : event.Supersedes)
    {ticket : Ticket} (within : ticket.seq ≤ event.before.form.tickets.latest)
    (unbound : event.before.form.assignment = none → event.before.isPast ticket = true) :
    event.after.isPast ticket = true := by
  have left := after_of_mem_trace mem
  obtain ⟨before, command, result, after⟩ := event
  dsimp only at left within unbound
  subst left
  cases command with
  | rebind source =>
    rw [perform, Run.after_bind_pure]
    exact Run.isPast_after_rebind source within
  | performAction actionId =>
    rw [perform, Run.after_bind_pure]
    exact Run.isPast_after_performAction actionId within unbound
  | submit =>
    obtain ⟨alive, ⟨context, bound⟩, content, nested⟩ := supersedes
    rw [perform, Run.after_bind_pure]
    exact Run.isPast_after_submit alive bound nested within
  | _ => cases supersedes

/-- A refresh that was prepared before an event that supersedes it gets its answer late. -/
theorem isLate_of_supersedes {start fence answer : Event}
    (order : [start, fence, answer].Sublist (trace commands s)) {prepared : PreparedRefresh}
    {reply : Reply View} (ready : start.prepared? = some prepared) (supersedes : fence.Supersedes)
    (answers : answer.command = .applyRefresh prepared reply) : answer.isLate = true := by
  have later : Advances start.after fence.before ∧ Advances start.after answer.before ∧
      Advances fence.after answer.before := by
    have pairs := (pairwise_trace Advances.frame.refl Advances.frame.trans advances commands
      s).sublist order
    simpa [and_assoc] using pairs
  obtain ⟨latest, bound⟩ := (prepares_of_event (order.subset (by simp)) ready).holds
  obtain ⟨toFence, -, toAnswer⟩ := later
  have within : prepared.ticket.seq ≤ fence.before.form.tickets.latest :=
    latest ▸ toFence.latest
  have past := isPast_after_supersedes (order.subset (by simp)) supersedes within (by
    intro unbound
    refine Run.isPast_of_lt ?_
    rw [← latest]
    exact (toFence.unbound unbound).resolve_left bound)
  have crossed : fence.before.form.tickets.latest ≤ fence.after.form.tickets.latest := by
    rw [after_of_mem_trace (order.subset (by simp : fence ∈ [start, fence, answer]))]
    exact (advances fence.command fence.before).latest
  unfold Event.isLate
  rw [answers]
  exact toAnswer.isPast (Nat.le_trans within crossed) past

end Command

/-- Late answers to refreshes do not matter. The tickets whose answers take effect go up. A refresh
that was prepared before the form took another source or another action, or sent a submission, has
no effect when its answer comes after that. A late answer is dropped and changes the loading mark of
its own repeating structure only. And leaving out the late answers without a loading mark leaves the
rest of the run as it was: every other event with its result and the situations around it, and the
situation at the end. -/
theorem late_answers (commands : List Command) (s : Situation) :
    ((Command.trace commands s).filterMap Event.effect?).Pairwise (· ≤ ·) ∧
    (∀ start fence answer prepared reply,
      [start, fence, answer].Sublist (Command.trace commands s) →
      start.prepared? = some prepared → fence.Supersedes →
      answer.command = .applyRefresh prepared reply →
      answer.isLate = true ∧ answer.effect? = none) ∧
    (∀ event ∈ Command.trace commands s, event.isLate = true →
      ∃ prepared reply, event.command = .applyRefresh prepared reply ∧
        (event.result = .ok (.refreshed .superseded) ∨
          event.result = .ok (.refreshed .disposed)) ∧
        event.after = event.before.release prepared.container) ∧
    (let kept := (Command.trace commands s).filter fun event => !event.isIdle
    Command.trace (kept.map Event.command) s = kept ∧
      (Command.runAll (kept.map Event.command) s).2 = (Command.runAll commands s).2) := by
  refine ⟨?_, ?_, fun event mem => Command.answer_of_late mem, ?_⟩
  · refine List.pairwise_filterMap.2 ((Command.pairwise_trace Advances.frame.refl
      Advances.frame.trans Command.advances commands s).imp_of_mem ?_)
    intro event later mem after forward first effect second also
    have here := Command.latest_of_effect mem effect
    have there := Command.latest_of_effect after also
    have crossed := (Command.advances event.command event.before).latest
    rw [← Command.after_of_mem_trace mem] at crossed
    have onward := forward.latest
    omega
  · intro start fence answer prepared reply order ready supersedes answers
    have late := Command.isLate_of_supersedes order ready supersedes answers
    refine ⟨late, ?_⟩
    obtain ⟨_, _, same, dropped, -⟩ := Command.answer_of_late (order.subset (by simp)) late
    unfold Event.effect?
    rw [same]
    rcases dropped with result | result <;> rw [result]
  · apply Command.trace_filter
    intro event mem idle
    obtain ⟨before, command, result, after⟩ := event
    cases command with
    | applyRefresh prepared reply =>
      obtain ⟨late, unmarked⟩ : before.isPast prepared.ticket = true ∧
          prepared.container.isNone = true := by simpa [Event.isIdle] using idle
      obtain ⟨other, _, same, -, left⟩ := Command.answer_of_late mem late
      cases same
      dsimp only at left ⊢
      rw [Option.isNone_iff_eq_none] at unmarked
      rw [left, unmarked]
      rfl
    | _ => cases idle

/-- An open form on an assignment, with an empty view. -/
def openAction : Situation where
  form := Form.build (.ofSettings {}) {} (.start "" "")
    (.assignment ⟨"C", "A", "B", none⟩ ⟨"", true, [], none⟩)
  surroundings := {}

/-- A refresh that is on its way when the form takes another source gets its answer late. -/
theorem late_answer_after_rebind :
    ∃ start fence answer,
      Command.trace [.prepareRefresh [], .rebind (.page none ⟨"", true, [], none⟩),
        .applyRefresh ⟨⟨1⟩, ⟨"C", "A", "B", .obj []⟩, none⟩ (.error noReply)] openAction =
          [start, fence, answer] ∧
      answer.isLate = true ∧ answer.effect? = none := by
  obtain ⟨-, dropped, -⟩ := late_answers [.prepareRefresh [],
    .rebind (.page none ⟨"", true, [], none⟩),
    .applyRefresh ⟨⟨1⟩, ⟨"C", "A", "B", .obj []⟩, none⟩ (.error noReply)] openAction
  refine ⟨_, _, _, rfl, ?_⟩
  refine dropped _ _ _ _ _ (List.Sublist.refl _) ?_ ?_ rfl
  · rfl
  · trivial

end CaseForm

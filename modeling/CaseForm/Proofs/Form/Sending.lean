import CaseForm.Proofs.Form.Loading

/-!
When the server is asked.

Three facts about a single command carry the runs. What a command sends goes in the session of the
form, which holds a token, and the form is open before and after it (`Command.sent_step`); only
closing changes whether a form is open, and closing sends nothing, so it is open in between as well.
A closed form stays closed (`Command.alive_step`), and a session that has ended stays ended
(`Command.session_step`). Hence a form that is closed or signed out never asks the server again
(`Command.silent_runAll`).

* `server_reached_alive`: the server is asked by open forms in sessions with a token only.
-/

namespace CaseForm

namespace Run

/-- What leaves the session of a form as it is, and sends what it sends in that session. -/
def InSession (s later : Situation) : Prop :=
  later.form.session = s.form.session ∧
    s.surroundings.Talk s.form.session later.surroundings

theorem InSession.trans {a b c : Situation} (first : InSession a b) (second : InSession b c) :
    InSession a c := by
  obtain ⟨same, talk⟩ := second
  rw [first.1] at same talk
  exact ⟨same, first.2.trans talk⟩

/-- What is done to the form on this side. -/
theorem InSession.of_form {s : Situation} {form : Form} (same : form.session = s.form.session) :
    InSession s { s with form := form } := ⟨same, .refl s.surroundings⟩

theorem frame_session : MarkFrame InSession where
  refl _ := .of_form rfl
  trans := .trans
  surroundings _ _ talk := ⟨rfl, talk⟩
  errors _ _ := .of_form rfl
  issued _ := .of_form rfl
  loading _ _ := .of_form rfl

theorem session_after_setActiveAction (actionId : String) :
    (setActiveAction actionId).Keeps InSession :=
  frame_session.bind frame_session.boundAssignment fun _ _ => .of_form rfl

theorem work_session : WorkFrame InSession where
  toFrame := frame_session.toFrame
  shown _ _ _ := .of_form rfl
  loadAction :=
    frame_session.loadAction session_after_setActiveAction fun _ _ => .of_form rfl

theorem surroundings_after_setActiveAction (actionId : String) (s : Situation) :
    ((setActiveAction actionId).after s).surroundings = s.surroundings := by
  cases bound : s.form.assignment with
  | none => rw [setActiveAction, after_of_error (bind_of_error (boundAssignment_of_none bound))]
  | some context =>
    rw [after, setActiveAction, bind_of_ok (boundAssignment_eq_ok_iff.2 ⟨bound, rfl⟩)]
    rfl

/-- A report is made to the user, not to the server. -/
theorem made_after_report (error : TransportError) (s : Situation) :
    s.surroundings.Made Call.request? ((report error).after s).surroundings [] := by
  cases error with
  | validation payload => exact .refl s.surroundings
  | _ => exact .record s.surroundings rfl

end Run

/-- The form is closed, or its session has ended. -/
def Form.Barred (form : Form) : Prop := form.alive = false ∨ form.session.isActive = false

theorem Situation.surroundings_release (container : Option String) (s : Situation) :
    (s.release container).surroundings = s.surroundings := by cases container <;> rfl

namespace Command

variable {command : Command} {s : Situation}

/-! ### One command -/

/-- The command ends the session. -/
def signsOut : Command → Bool
  | .endSession => true
  | _ => false

/-- A command that does not end the session sends what it sends in it. -/
theorem inSession_step (stays : command.signsOut = false) (s : Situation) :
    Run.InSession s (command.step s).2 := by
  have frame := Run.frame_session
  have work := Run.work_session
  rw [step_snd]
  cases command with
  | prepareRepeat | applyRefresh | editRepeat => exact frame.perform work rfl s
  | setActiveAction actionId =>
    exact frame.bind (Run.session_after_setActiveAction actionId) (fun _ => frame.pure _) s
  | rebind source =>
    refine frame.bind (frame.rebind fun s _ => ?_) (fun _ => frame.pure _) s
    cases source <;> exact .of_form rfl
  | cancel => exact frame.bind (frame.cancel fun _ _ => .of_form rfl) (fun _ => frame.pure _) s
  | endSession => cases stays
  | _ => exact work.perform rfl s

theorem session_step (command : Command) (s : Situation) :
    (command.step s).2.form.session =
      if command.signsOut then s.form.session.finish else s.form.session := by
  cases ends : command.signsOut with
  | false => exact (inSession_step ends s).1
  | true =>
    cases command with
    | endSession => rfl
    | _ => cases ends

/-- A command that does not look whether the form is open does not ask the server. -/
theorem silent_step (unguarded : command.isGuarded = false) (s : Situation) :
    s.surroundings.Made Call.request? (command.step s).2.surroundings [] := by
  cases command with
  | applyRefresh prepared reply =>
    have released := s.surroundings_release prepared.container
    rw [step_applyRefresh]
    split
    · exact .of_calls_eq (by rw [released])
    · cases reply with
      | ok view => exact .of_calls_eq (by rw [released])
      | error error =>
        have made := Run.made_after_report error (s.release prepared.container)
        rwa [released] at made
  | setActiveAction actionId =>
    rw [step_snd, perform, Run.after_bind_pure]
    exact .of_calls_eq (by rw [Run.surroundings_after_setActiveAction])
  | cancel | endSession => exact .refl s.surroundings
  | _ => cases unguarded

/-- What a command sends goes in the session of the form, which holds a token, and the form is open
before and after it. -/
theorem sent_step (command : Command) (s : Situation) :
    ∃ requests, s.surroundings.Made Call.request? (command.step s).2.surroundings requests ∧
      ∀ request ∈ requests, request.1 = s.form.session ∧ s.form.session.isActive = true ∧
        s.form.alive = true ∧ (command.step s).2.form.alive = true := by
  cases guarded : command.isGuarded with
  | false => exact ⟨[], silent_step guarded s, nofun⟩
  | true =>
    cases alive : s.form.alive with
    | false =>
      rw [step_of_closed guarded alive]
      exact ⟨[], .refl s.surroundings, nofun⟩
    | true =>
      have stays : command.signsOut = false ∧ command.closes = false := by
        cases command <;> first | exact ⟨rfl, rfl⟩ | cases guarded
      obtain ⟨requests, made, sent⟩ := (inSession_step stays.1 s).2
      refine ⟨requests, made, fun request mem => ?_⟩
      obtain ⟨same, active⟩ := sent request mem
      refine ⟨same, active, rfl, ?_⟩
      rw [alive_step, alive, stays.2]
      rfl

/-! ### Runs -/

/-- The command closes the form or ends its session. -/
def bars (command : Command) : Bool := command.closes || command.signsOut

/-- A form that is closed or signed out stays so. -/
theorem barred_step (barred : s.form.Barred) (command : Command) :
    (command.step s).2.form.Barred := by
  rcases barred with closed | ended
  · left
    rw [alive_step, closed, Bool.false_and]
  · right
    rw [session_step]
    split
    · rfl
    · exact ended

theorem barred_of_bars (bars : command.bars = true) (s : Situation) :
    (command.step s).2.form.Barred := by
  rcases Bool.or_eq_true_iff.1 bars with closes | ends
  · left
    rw [alive_step, closes, Bool.not_true, Bool.and_false]
  · right
    rw [session_step, ends, if_pos rfl]
    rfl

/-- A form that is closed or signed out does not ask the server, whatever is asked of it. -/
theorem silent_of_barred (barred : s.form.Barred) (command : Command) :
    s.surroundings.Made Call.request? (command.step s).2.surroundings [] := by
  obtain ⟨requests, made, sent⟩ := command.sent_step s
  have none : requests = [] := by
    refine List.eq_nil_iff_forall_not_mem.2 fun request mem => ?_
    obtain ⟨-, active, alive, -⟩ := sent request mem
    rcases barred with closed | ended
    · rw [closed] at alive
      cases alive
    · rw [ended] at active
      cases active
  rwa [none] at made

theorem silent_runAll (barred : s.form.Barred) (commands : List Command) :
    s.surroundings.Made Call.request? (runAll commands s).2.surroundings [] := by
  induction commands generalizing s with
  | nil => exact .refl s.surroundings
  | cons command commands ih =>
    exact (silent_of_barred barred command).trans (ih (barred_step barred command))

/-- A run ends with what its last command leaves. -/
theorem runAll_concat (commands : List Command) (last : Command) (s : Situation) :
    (runAll (commands ++ [last]) s).2 = (last.step (runAll commands s).2).2 := by
  induction commands generalizing s with
  | nil => rfl
  | cons command commands ih => exact ih (command.step s).2

end Command

/-- Opening an assignment asks the server in the session that the form is to be made with, and only
while that holds a token. -/
theorem Setup.talk_openAssignment (setup : Setup) (assignment : Assignment)
    (surroundings : Surroundings) :
    surroundings.Talk setup.session (setup.openAssignment assignment surroundings).2 := by
  unfold openAssignment
  split
  · exact .of_made (.record surroundings rfl)
  · next action rest _ =>
    split
    · next active =>
      let request : Request := .view assignment.id action.id
      have asked := Surroundings.Talk.record surroundings active request
      have taken := Surroundings.calls_takeView
        (surroundings.record (.server setup.session request))
      dsimp only
      split
      · next view s answer =>
        rw [answer] at taken
        exact asked.trans (.of_made (.of_calls_eq taken))
      · next error s answer =>
        rw [answer] at taken
        exact asked.trans ((Surroundings.Talk.of_made (.of_calls_eq taken)).trans
          (.of_made (.record s rfl)))
    · exact .of_made (.record surroundings rfl)

/-- The server is asked only in a session that holds a token, and by a form only while that is
open. This holds for the opening of assignments, and for every command of every run: what it sends
goes in the session that the form has then, with the form open before and after it. Once a command
of a run has closed the form or ended its session, nothing more is sent in the run. -/
theorem server_reached_alive :
    (∀ (setup : Setup) (assignment : Assignment) (surroundings : Surroundings),
      surroundings.Talk setup.session (setup.openAssignment assignment surroundings).2) ∧
    (∀ (s : Situation) (commands : List Command), ∀ event ∈ Command.trace commands s,
      ∃ requests,
        event.before.surroundings.Made Call.request? event.after.surroundings requests ∧
        ∀ request ∈ requests, request.1 = event.before.form.session ∧
          request.1.isActive = true ∧ event.before.form.alive = true ∧
          event.after.form.alive = true) ∧
    ∀ (s : Situation) (earlier later : List Command) (last : Command), last.bars = true →
      let barred := (Command.runAll (earlier ++ [last]) s).2
      barred.surroundings.Made Call.request? (Command.runAll later barred).2.surroundings [] := by
  refine ⟨Setup.talk_openAssignment, ?_, ?_⟩
  · intro s commands event mem
    have step := Command.step_of_mem_trace mem
    obtain ⟨requests, made, sent⟩ := event.command.sent_step event.before
    rw [step] at made sent
    refine ⟨requests, made, fun request asked => ?_⟩
    obtain ⟨same, active, before, after⟩ := sent request asked
    exact ⟨same, by rw [same]; exact active, before, after⟩
  · intro s earlier later last bars barred
    have shut : (Command.runAll (earlier ++ [last]) s).2.form.Barred := by
      rw [Command.runAll_concat]
      exact Command.barred_of_bars bars _
    exact Command.silent_runAll shut later

/-- A form saves its edits. Signed out, it sends nothing, neither for a handler that goes to the
server twice nor for a submission. -/
theorem server_not_reached_signed_out :
    let saved := (Command.runAll ([.save] ++ [.endSession]) openAction).2
    openAction.surroundings.Made Call.request? saved.surroundings
      [(.start "" "", .save ⟨"C", none, .obj []⟩)] ∧
    saved.surroundings.Made Call.request?
      (Command.runAll [.dispatch ⟨[.refresh [], .performAction "D"], []⟩, .submit]
        saved).2.surroundings [] :=
  ⟨⟨_, rfl, rfl⟩, server_reached_alive.2.2 openAction [.save] _ .endSession rfl⟩

end CaseForm

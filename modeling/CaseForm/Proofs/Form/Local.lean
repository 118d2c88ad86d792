import CaseForm.Proofs.Form.Running

/-!
What an operation does on this side, before and between the answers of the server.

Looking at the form changes nothing at all (`Run.Looks`). Asking the user and sending a request do
nothing about the form either and do not alarm the user (`Run.Quiet`). An operation made of such
parts may fail, as when the form is closed, a reference cannot be written or the user enters no key,
but not because of what the server says (`Run.Local`): the reply to a request is taken for what it
is, and only `Run.expect` makes it count. A change of a group takes one prompt, and looks at the
answer (`Run.exists_editRepeated_entries`).

A request goes out in the session of the form, and only while that has a token. This holds for every
stretch of talk with the surroundings (`Surroundings.Talk`).
-/

namespace CaseForm

/-- The message of a call that alarms the user. -/
def Call.alarm? : Call → Option String
  | .notify ⟨.error, message⟩ => some message
  | _ => none

/-- What went wrong on the way to the server, if that is why an operation failed. -/
def FormError.cause? : FormError → Option TransportError
  | .transport cause => some cause
  | _ => none

/-- The request of a call to the server, with the session that it was made in. -/
def Call.request? : Call → Option (Session × Request)
  | .server session request => some (session, request)
  | _ => none

namespace Surroundings

/-- Between the surroundings calls were made, and these were picked from them. -/
def Made {β : Type} (pick : Call → Option β) (s later : Surroundings) (picked : List β) : Prop :=
  ∃ made, later.calls = s.calls ++ made ∧ made.filterMap pick = picked

namespace Made

variable {β : Type} {pick : Call → Option β} {a b c : Surroundings} {first second : List β}

theorem refl (s : Surroundings) : s.Made pick s [] := ⟨[], (List.append_nil _).symm, rfl⟩

theorem trans (before : a.Made pick b first) (after : b.Made pick c second) :
    a.Made pick c (first ++ second) := by
  obtain ⟨early, calls, rfl⟩ := before
  obtain ⟨late, more, rfl⟩ := after
  exact ⟨early ++ late, by rw [more, calls, List.append_assoc], List.filterMap_append⟩

theorem of_calls_eq (same : b.calls = a.calls) : a.Made pick b [] :=
  ⟨[], same.trans (List.append_nil _).symm, rfl⟩

theorem record {call : Call} (s : Surroundings) (other : pick call = none) :
    s.Made pick (s.record call) [] :=
  ⟨[call], rfl, by rw [List.filterMap_cons_none other, List.filterMap_nil]⟩

end Made

/-- Talk in a session: what went to the server went in the session, which had a token. -/
def Talk (session : Session) (s later : Surroundings) : Prop :=
  ∃ requests, s.Made Call.request? later requests ∧
    ∀ request ∈ requests, request.1 = session ∧ session.isActive = true

namespace Talk

variable {session : Session} {a b c : Surroundings}

/-- Whatever does not go to the server. -/
theorem of_made (silent : a.Made Call.request? b []) : a.Talk session b := ⟨[], silent, nofun⟩

theorem refl (s : Surroundings) : s.Talk session s := of_made (.refl s)

theorem trans (before : a.Talk session b) (after : b.Talk session c) : a.Talk session c := by
  obtain ⟨early, made, first⟩ := before
  obtain ⟨late, more, second⟩ := after
  refine ⟨early ++ late, made.trans more, fun request mem => ?_⟩
  exact (List.mem_append.1 mem).elim (first request) (second request)

/-- A request in a session with a token. -/
theorem record (s : Surroundings) (active : session.isActive = true) (request : Request) :
    s.Talk session (s.record (.server session request)) :=
  ⟨[(session, request)], ⟨_, rfl, rfl⟩, by simp [active]⟩

end Talk

end Surroundings

/-- Between the situations the user was alarmed with these messages. -/
def Situation.Alarmed (s later : Situation) (messages : List String) : Prop :=
  s.surroundings.Made Call.alarm? later.surroundings messages

namespace Situation.Alarmed

variable {a b c : Situation} {first second : List String}

theorem refl (s : Situation) : s.Alarmed s [] := Surroundings.Made.refl s.surroundings

theorem trans (before : a.Alarmed b first) (after : b.Alarmed c second) :
    a.Alarmed c (first ++ second) := Surroundings.Made.trans before after

end Situation.Alarmed

namespace Surroundings

/-! ### Taking an answer asks nothing -/

theorem calls_takeView (s : Surroundings) : s.takeView.2.calls = s.calls := by
  unfold takeView
  split <;> rfl

theorem calls_takeRefresh (s : Surroundings) : s.takeRefresh.2.calls = s.calls := by
  unfold takeRefresh
  split <;> rfl

theorem calls_takeSubmission (s : Surroundings) : s.takeSubmission.2.calls = s.calls := by
  unfold takeSubmission
  split <;> rfl

theorem calls_takeSave (s : Surroundings) : s.takeSave.2.calls = s.calls := by
  unfold takeSave
  split <;> rfl

theorem calls_takeCreation (s : Surroundings) : s.takeCreation.2.calls = s.calls := by
  unfold takeCreation
  split <;> rfl

theorem calls_takePrompt (s : Surroundings) : s.takePrompt.2.calls = s.calls := by
  unfold takePrompt
  split <;> rfl

end Surroundings

namespace Run

variable {α β : Type}

theorem exchange_of_active {s : Situation} (active : s.form.session.isActive = true)
    (request : Request) (next : Surroundings → Reply α × Surroundings) :
    exchange request next s =
      Run.take next ⟨s.form, s.surroundings.record (.server s.form.session request)⟩ := by
  rw [exchange, bind_of_ok (form_eq_ok_iff.2 ⟨rfl, rfl⟩)]
  simp only [active, if_true]
  rfl

theorem exchange_of_ended {s : Situation} (ended : s.form.session.isActive = false)
    (request : Request) (next : Surroundings → Reply α × Surroundings) :
    exchange request next s = .ok (.error .unauthenticated) s := by
  rw [exchange, bind_of_ok (form_eq_ok_iff.2 ⟨rfl, rfl⟩)]
  simp only [ended, Bool.false_eq_true, if_false]
  rfl

/-! ### Looking -/

/-- The operation only looks: it leaves the situation as it was. Where it fails, the server is not
why, nor is a row operation on its way. -/
def Looks (run : Run α) : Prop :=
  ∀ s, match run s with
    | .ok _ later => later = s
    | .error error later =>
      later = s ∧ error.cause? = none ∧ ∀ place, error ≠ .repeatBusy place

namespace Looks

theorem bind {first : Run α} {next : α → Run β} (before : Looks first)
    (rest : ∀ value, Looks (next value)) : Looks (first >>= next) := by
  intro s
  have here := before s
  cases ran : first s with
  | error error middle =>
    rw [ran] at here
    rw [bind_of_error ran]
    exact here
  | ok value middle =>
    rw [ran] at here
    rw [bind_of_ok ran]
    subst here
    exact rest value middle

theorem pure (value : α) : Looks (Pure.pure value) := fun _ => rfl

theorem throw {error : FormError} (here : error.cause? = none)
    (other : ∀ place, error ≠ .repeatBusy place) : Looks (throw error : Run α) :=
  fun _ => ⟨rfl, here, other⟩

theorem form : Looks Run.form := fun _ => rfl

theorem ensureAlive : Looks Run.ensureAlive := by
  refine form.bind fun found => ?_
  split
  · exact pure ()
  · exact throw rfl nofun

theorem boundAssignment : Looks Run.boundAssignment := by
  refine form.bind fun found => ?_
  split
  · exact pure _
  · exact throw rfl nofun

theorem ofReference (answer : Except ReferenceError α) : Looks (Run.ofReference answer) := by
  cases answer with
  | ok value => exact pure value
  | error error => exact throw rfl nofun

theorem nestedDocument : Looks Run.nestedDocument := form.bind fun _ => ofReference _

theorem editEntries (reference : String) (operation : RepeatOperation) (key : String)
    (entries : Entries Json) : Looks (Run.editEntries reference operation key entries) := by
  unfold Run.editEntries
  split
  · split
    · exact pure _
    · exact throw rfl nofun
  · exact pure _

end Looks

/-- Asks the user for the key of a group. -/
def prompt (operation : RepeatOperation) : Run (Option String) := do
  record (.prompt operation.question "")
  take Surroundings.takePrompt

/-- To change a group is to ask for a key, and to look at the answer. -/
theorem exists_editRepeated_entries (reference : String) (operation : RepeatOperation)
    (entries : Entries Json) :
    ∃ next : Option String → Run (Option Repeated), (∀ entered, Looks (next entered)) ∧
      editRepeated reference operation (.entries entries) = prompt operation >>= next := by
  refine ⟨_, fun entered => ?_, by simp only [editRepeated, askForKey, prompt, bind_assoc]; rfl⟩
  refine Looks.bind ?_ fun key => ?_
  · cases entered with
    | none => exact .pure none
    | some entry =>
      dsimp only
      split
      · exact .throw rfl nofun
      · exact .pure _
  · cases key with
    | none => exact .pure none
    | some key => exact (Looks.editEntries reference operation key entries).bind fun _ => .pure _

/-! ### Staying on this side -/

/-- Nothing about the form is changed, and the user is not alarmed. -/
structure Quiet (s later : Situation) : Prop where
  form : later.form = s.form
  silent : s.Alarmed later []
  talk : s.surroundings.Talk s.form.session later.surroundings

theorem Quiet.refl (s : Situation) : Quiet s s := ⟨rfl, .refl s, .refl s.surroundings⟩

theorem Quiet.trans {a b c : Situation} (first : Quiet a b) (second : Quiet b c) : Quiet a c := by
  refine ⟨second.form.trans first.form, first.silent.trans second.silent, ?_⟩
  have talk := second.talk
  rw [first.form] at talk
  exact first.talk.trans talk

/-- The operation is quiet, and where it fails the server is not why. -/
def Local (run : Run α) : Prop :=
  ∀ s, match run s with
    | .ok _ later => Quiet s later
    | .error error later => error.cause? = none ∧ Quiet s later

namespace Local

theorem bind {first : Run α} {next : α → Run β} (before : Local first)
    (rest : ∀ value, Local (next value)) : Local (first >>= next) := by
  intro s
  have here := before s
  cases ran : first s with
  | error error middle =>
    rw [ran] at here
    rw [bind_of_error ran]
    exact here
  | ok value middle =>
    rw [ran] at here
    rw [bind_of_ok ran]
    have there := rest value middle
    cases goes : next value middle with
    | error error later =>
      rw [goes] at there
      exact ⟨there.1, here.trans there.2⟩
    | ok result later =>
      rw [goes] at there
      exact here.trans there

/-- A look stays on this side. -/
theorem of_looks {run : Run α} (looks : Looks run) : Local run := by
  intro s
  have here := looks s
  cases ran : run s with
  | ok value later =>
    rw [ran] at here
    subst here
    exact .refl later
  | error error later =>
    rw [ran] at here
    obtain ⟨rfl, cause, -⟩ := here
    exact ⟨cause, .refl later⟩

theorem pure (value : α) : Local (Pure.pure value) := of_looks (.pure value)

theorem throw {error : FormError} (here : error.cause? = none) :
    Local (throw error : Run α) := fun s => ⟨here, .refl s⟩

theorem form : Local Run.form := of_looks .form

theorem record {call : Call} (silent : call.alarm? = none) (aside : call.request? = none) :
    Local (Run.record call) :=
  fun s => ⟨rfl, .record s.surroundings silent, .of_made (.record s.surroundings aside)⟩

theorem take {next : Surroundings → α × Surroundings}
    (calls : ∀ surroundings, (next surroundings).2.calls = surroundings.calls) :
    Local (Run.take next) :=
  fun s =>
    have same := calls s.surroundings
    ⟨rfl, .of_calls_eq same, .of_made (.of_calls_eq same)⟩

theorem ensureAlive : Local Run.ensureAlive := of_looks .ensureAlive

theorem boundAssignment : Local Run.boundAssignment := of_looks .boundAssignment

theorem ofReference (answer : Except ReferenceError α) : Local (Run.ofReference answer) :=
  of_looks (.ofReference answer)

theorem nestedDocument : Local Run.nestedDocument := of_looks .nestedDocument

/-- A request goes out in the session of the form, or not at all. -/
theorem exchange (request : Request) {next : Surroundings → Reply α × Surroundings}
    (calls : ∀ surroundings, (next surroundings).2.calls = surroundings.calls) :
    Local (Run.exchange request next) := by
  intro s
  cases active : s.form.session.isActive with
  | false =>
    rw [exchange_of_ended active]
    exact .refl s
  | true =>
    rw [exchange_of_active active]
    have sent : Quiet s ⟨s.form, s.surroundings.record (.server s.form.session request)⟩ :=
      ⟨rfl, .record s.surroundings rfl, .record s.surroundings active request⟩
    exact sent.trans (take calls _)

theorem sendRefresh (prepared : PreparedRefresh) : Local (Run.sendRefresh prepared) :=
  exchange _ Surroundings.calls_takeRefresh

theorem prompt (operation : RepeatOperation) : Local (Run.prompt operation) :=
  (record rfl rfl).bind fun _ => take Surroundings.calls_takePrompt

theorem editRepeated (reference : String) (operation : RepeatOperation) (repeated : Repeated) :
    Local (Run.editRepeated reference operation repeated) := by
  cases repeated with
  | rows rows => exact pure _
  | entries entries =>
    obtain ⟨next, looks, same⟩ := exists_editRepeated_entries reference operation entries
    rw [same]
    exact (prompt operation).bind fun entered => of_looks (looks entered)

end Local

end Run

end CaseForm

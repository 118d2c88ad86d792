import CaseForm.Form.Dispatch

/-!
When operations on a form succeed.

An operation is taken apart at its binds (`Run.bind_eq_ok_iff`), and each of the parts that
operations are made of says when it succeeds and what it leaves.

* `Run.edit_eq_ok_iff`: an edit;
* `Run.nestedDocument_eq_ok_iff`: the submission document.
-/

namespace CaseForm

namespace Run

variable {α β : Type} {s s' : Situation}

/-- Operations one after another succeed if the first does, and the second in what it leaves. -/
theorem bind_eq_ok_iff {first : Run α} {next : α → Run β} {result : β} :
    (first >>= next) s = .ok result s' ↔
      ∃ value middle, first s = .ok value middle ∧ next value middle = .ok result s' := by
  simp only [bind, EStateM.bind]
  cases first s with
  | error error left => simp
  | ok value middle =>
    constructor
    · exact fun h => ⟨value, middle, rfl, h⟩
    · rintro ⟨_, _, ⟨rfl, rfl⟩, h⟩
      exact h

theorem bind_of_ok {first : Run α} {next : α → Run β} {value : α}
    (ok : first s = .ok value s') : (first >>= next) s = next value s' := by
  simp only [Bind.bind, EStateM.bind, ok]

theorem bind_of_error {first : Run α} {next : α → Run β} {error : FormError}
    (failed : first s = .error error s') : (first >>= next) s = .error error s' := by
  simp only [Bind.bind, EStateM.bind, failed]

theorem pure_eq_ok_iff {value result : α} :
    (pure value : Run α) s = .ok result s' ↔ value = result ∧ s = s' := by
  change EStateM.Result.ok value s = .ok result s' ↔ _
  simp

theorem throw_ne_ok {error : FormError} {result : α} :
    (throw error : Run α) s ≠ .ok result s' := by
  intro absurd
  cases absurd

theorem form_eq_ok_iff {found : Form} : form s = .ok found s' ↔ s.form = found ∧ s = s' := by
  change EStateM.Result.ok s.form s = .ok found s' ↔ _
  simp

theorem changeForm_eq_ok_iff {change : Form → Form} {done : Unit} :
    changeForm change s = .ok done s' ↔ { s with form := change s.form } = s' := by
  change EStateM.Result.ok () { s with form := change s.form } = .ok done s' ↔ _
  simp

theorem ensureAlive_eq_ok_iff {done : Unit} :
    ensureAlive s = .ok done s' ↔ s.form.alive = true ∧ s = s' := by
  rw [ensureAlive, bind_eq_ok_iff]
  constructor
  · rintro ⟨found, middle, here, goes⟩
    obtain ⟨rfl, rfl⟩ := form_eq_ok_iff.1 here
    cases alive : s.form.alive with
    | true =>
      rw [alive] at goes
      exact ⟨rfl, (pure_eq_ok_iff.1 goes).2⟩
    | false =>
      rw [alive] at goes
      exact absurd goes throw_ne_ok
  · rintro ⟨alive, rfl⟩
    refine ⟨_, _, form_eq_ok_iff.2 ⟨rfl, rfl⟩, ?_⟩
    rw [alive]
    rfl

theorem boundAssignment_eq_ok_iff {context : AssignmentContext} :
    boundAssignment s = .ok context s' ↔ s.form.assignment = some context ∧ s = s' := by
  rw [boundAssignment, bind_eq_ok_iff]
  constructor
  · rintro ⟨found, middle, here, bound⟩
    obtain ⟨rfl, rfl⟩ := form_eq_ok_iff.1 here
    cases assignment : s.form.assignment with
    | some other =>
      rw [assignment] at bound
      obtain ⟨rfl, rfl⟩ := pure_eq_ok_iff.1 bound
      exact ⟨rfl, rfl⟩
    | none =>
      rw [assignment] at bound
      exact absurd bound throw_ne_ok
  · rintro ⟨assignment, rfl⟩
    refine ⟨_, _, form_eq_ok_iff.2 ⟨rfl, rfl⟩, ?_⟩
    rw [assignment]
    rfl

theorem issueTicket_eq_ok_iff {ticket : Ticket} :
    issueTicket s = .ok ticket s' ↔
      s.form.tickets.issue.1 = ticket ∧
        { s with form := { s.form with tickets := s.form.tickets.issue.2 } } = s' := by
  change EStateM.Result.ok s.form.tickets.issue.1
    { s with form := { s.form with tickets := s.form.tickets.issue.2 } } = .ok ticket s' ↔ _
  simp

theorem ofReference_eq_ok_iff {answer : Except ReferenceError α} {result : α} :
    ofReference answer s = .ok result s' ↔ answer = .ok result ∧ s = s' := by
  cases answer with
  | error error => simp [ofReference, throw_ne_ok]
  | ok value => simp [ofReference, pure_eq_ok_iff]

/-- An edit succeeds on an open form if its value can be written, and stores the value. -/
theorem edit_eq_ok_iff {reference : String} {input : FieldInput} :
    edit reference input s = .ok () s' ↔
      s.form.alive = true ∧ ∃ value,
        input.value s.form.renderer.settings.dateFormat = .ok value ∧
        { s with form := { s.form with values := s.form.values.insert reference value } } =
          s' := by
  simp only [edit, bind_eq_ok_iff, ensureAlive_eq_ok_iff, form_eq_ok_iff]
  constructor
  · rintro ⟨_, _, ⟨alive, rfl⟩, _, _, ⟨rfl, rfl⟩, stored⟩
    refine ⟨alive, ?_⟩
    cases written : input.value s.form.renderer.settings.dateFormat with
    | error error =>
      rw [written] at stored
      exact absurd stored throw_ne_ok
    | ok value =>
      rw [written] at stored
      exact ⟨value, rfl, changeForm_eq_ok_iff.1 stored⟩
  · rintro ⟨alive, value, written, stored⟩
    refine ⟨(), s, ⟨alive, rfl⟩, s.form, s, ⟨rfl, rfl⟩, ?_⟩
    rw [written]
    exact changeForm_eq_ok_iff.2 stored

/-- A submission document changes nothing. -/
theorem nestedDocument_eq_ok_iff {document : Json} :
    nestedDocument s = .ok document s' ↔ s.form.document = .ok document ∧ s = s' := by
  simp only [nestedDocument, bind_eq_ok_iff, form_eq_ok_iff, ofReference_eq_ok_iff]
  constructor
  · rintro ⟨_, _, ⟨rfl, rfl⟩, nested, rfl⟩
    exact ⟨nested, rfl⟩
  · rintro ⟨nested, rfl⟩
    exact ⟨_, _, ⟨rfl, rfl⟩, nested, rfl⟩

/-- A refresh holds no loading mark. -/
theorem container_of_prepareRefresh {pairs : List SetValuePair} {prepared : PreparedRefresh}
    (ok : prepareRefresh pairs s = .ok prepared s') : prepared.container = none := by
  simp only [prepareRefresh, bind_eq_ok_iff, pure_eq_ok_iff] at ok
  obtain ⟨_, _, -, _, _, -, _, _, -, _, _, -, _, _, -, _, _, -, _, _, -, rfl, -⟩ := ok
  rfl

end Run

end CaseForm

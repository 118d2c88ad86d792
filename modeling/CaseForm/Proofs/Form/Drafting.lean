import CaseForm.Proofs.Form.Keeping

/-!
Requests before they are sent.

Preparing a refresh has two parts. First the request is drafted, which may fail or be cancelled and
changes nothing about the form (`Run.draftRefresh`, `Run.draftRepeat`). Then the form commits itself
to it: the request takes the next ticket, validation messages are forgotten, and a repeating
structure is marked (`Form.commit`).

* `Run.prepareRefresh_eq_ok_iff`, `Run.prepareRepeat_eq_ok_some_iff`: what is prepared, and the
  situation after it (`Run.Prepares`: what both have in common);
* `Run.form_after_prepareRepeat`: a row operation that is not prepared leaves the form as it was;
* `Run.prepareRepeat_eq_busy_iff`: when a row operation is refused because another is on its way.
-/

namespace CaseForm

/-- The form once a request has taken a ticket, with the mark of a repeating structure, if there is
one. -/
def Form.commit (container : Option String) (form : Form) : Form :=
  { form with
    loading := match container with
      | some container => form.loading.insert container ()
      | none => form.loading
    errors := .empty
    tickets := form.tickets.issue.2 }

namespace Run

variable {s s' : Situation} {pairs : List SetValuePair} {prepared : PreparedRefresh}
  {reference : String} {kind : RepeatKind} {operation : RepeatOperation}

/-! ### Refreshes -/

/-- The request of a refresh. -/
def draftRefresh (pairs : List SetValuePair) : Run ActionRequest := do
  ensureAlive
  let context ← boundAssignment
  let document ← nestedDocument
  let content ← ofReference ((← form).writePairs pairs document)
  return actionRequest context content

theorem prepareRefresh_eq (pairs : List SetValuePair) :
    prepareRefresh pairs = do
      let request ← draftRefresh pairs
      clearErrors
      let ticket ← issueTicket
      return ⟨ticket, request, none⟩ := by
  simp only [prepareRefresh, draftRefresh, bind_assoc, pure_bind]

/-- The request of a refresh is drafted from what is there. -/
theorem Looks.draftRefresh (pairs : List SetValuePair) : Looks (Run.draftRefresh pairs) := by
  refine ensureAlive.bind fun _ => boundAssignment.bind fun context => ?_
  refine nestedDocument.bind fun document => form.bind fun found => ?_
  exact (ofReference _).bind fun content => pure _

theorem Local.draftRefresh (pairs : List SetValuePair) : Local (Run.draftRefresh pairs) :=
  of_looks (.draftRefresh pairs)

theorem draftRefresh_eq_ok_iff {request : ActionRequest} :
    draftRefresh pairs s = .ok request s' ↔
      s.form.alive = true ∧ ∃ context document content,
        s.form.assignment = some context ∧ s.form.document = .ok document ∧
        s.form.writePairs pairs document = .ok content ∧
        actionRequest context content = request ∧ s = s' := by
  simp only [draftRefresh, bind_eq_ok_iff, ensureAlive_eq_ok_iff, boundAssignment_eq_ok_iff,
    nestedDocument_eq_ok_iff, form_eq_ok_iff, ofReference_eq_ok_iff, pure_eq_ok_iff]
  constructor
  · rintro ⟨_, _, ⟨alive, rfl⟩, context, _, ⟨bound, rfl⟩, document, _, ⟨nested, rfl⟩, _, _,
      ⟨rfl, rfl⟩, content, _, ⟨written, rfl⟩, made⟩
    exact ⟨alive, context, document, content, bound, nested, written, made⟩
  · rintro ⟨alive, context, document, content, bound, nested, written, made⟩
    exact ⟨(), _, ⟨alive, rfl⟩, context, _, ⟨bound, rfl⟩, document, _, ⟨nested, rfl⟩, _, _,
      ⟨rfl, rfl⟩, content, _, ⟨written, rfl⟩, made⟩

theorem prepareRefresh_eq_ok_iff :
    prepareRefresh pairs s = .ok prepared s' ↔
      ∃ request, draftRefresh pairs s = .ok request s ∧
        ⟨s.form.tickets.issue.1, request, none⟩ = prepared ∧
        { s with form := s.form.commit none } = s' := by
  simp only [prepareRefresh_eq, bind_eq_ok_iff, clearErrors, changeForm_eq_ok_iff,
    issueTicket_eq_ok_iff, pure_eq_ok_iff]
  constructor
  · rintro ⟨request, middle, drafted, _, _, rfl, _, _, ⟨rfl, rfl⟩, rfl, rfl⟩
    obtain rfl : s = middle := by
      obtain ⟨-, _, _, _, -, -, -, -, same⟩ := draftRefresh_eq_ok_iff.1 drafted
      exact same
    exact ⟨request, drafted, rfl, rfl⟩
  · rintro ⟨request, drafted, rfl, rfl⟩
    exact ⟨request, s, drafted, (), _, rfl, _, _, ⟨rfl, rfl⟩, rfl, rfl⟩

/-! ### Row operations -/

/-- The request of a row operation; none where the user cancels. -/
def draftRepeat (reference : String) (kind : RepeatKind) (operation : RepeatOperation) :
    Run (Option ActionRequest) := do
  ensureAlive
  if (← form).loading.contains reference then throw (.repeatBusy reference)
  let context ← boundAssignment
  let document ← nestedDocument
  let addressing := (← form).addressing
  let (document, located) := addressing.locate reference kind document
  let repeated ← ofReference located
  match ← editRepeated reference operation repeated with
  | none => return none
  | some edited =>
    let (content, _) := addressing.edit reference kind (fun _ => (edited, ())) document
    return some (actionRequest context content)

/-- What preparing a row operation does with a draft of it. -/
def commitRepeat (reference : String) : Option ActionRequest → Run (Option PreparedRefresh)
  | none => return none
  | some request => do
    changeForm fun form => { form with loading := form.loading.insert reference () }
    clearErrors
    let ticket ← issueTicket
    return some ⟨ticket, request, some reference⟩

theorem prepareRepeat_eq (reference : String) (kind : RepeatKind) (operation : RepeatOperation) :
    prepareRepeat reference kind operation =
      draftRepeat reference kind operation >>= commitRepeat reference := by
  simp only [prepareRepeat, draftRepeat, bind_assoc]
  refine bind_congr fun _ => bind_congr fun found => ?_
  split
  · rfl
  · simp only [bind_assoc]
    refine bind_congr fun context => bind_congr fun document => bind_congr fun found => ?_
    refine bind_congr fun repeated => bind_congr fun edited => ?_
    cases edited <;> rfl

/-- A draft asks the user at most. -/
theorem Local.draftRepeat (reference : String) (kind : RepeatKind) (operation : RepeatOperation) :
    Local (Run.draftRepeat reference kind operation) := by
  refine ensureAlive.bind fun _ => form.bind fun found => ?_
  dsimp only
  split
  · exact fun s => ⟨rfl, .refl s⟩
  · refine boundAssignment.bind fun context => nestedDocument.bind fun document => ?_
    refine form.bind fun found => (ofReference _).bind fun repeated => ?_
    refine (editRepeated reference operation repeated).bind fun edited => ?_
    cases edited <;> exact pure _

theorem form_after_draftRepeat (reference : String) (kind : RepeatKind)
    (operation : RepeatOperation) (s : Situation) :
    ((draftRepeat reference kind operation).after s).form = s.form :=
  ((Local.draftRepeat reference kind operation).quiet_after s).form

theorem form_of_draftRepeat {request : Option ActionRequest}
    (ok : draftRepeat reference kind operation s = .ok request s') : s'.form = s.form := by
  rw [← after_of_ok ok, form_after_draftRepeat]

theorem draftRepeat_eq_ok_some_iff {request : ActionRequest} :
    draftRepeat reference kind operation s = .ok (some request) s' ↔
      s.form.alive = true ∧ s.form.loading.contains reference = false ∧
      ∃ context document located found edited,
        s.form.assignment = some context ∧ s.form.document = .ok document ∧
        s.form.addressing.locate reference kind document = (located, .ok found) ∧
        editRepeated reference operation found s = .ok (some edited) s' ∧
        actionRequest context
          (s.form.addressing.edit reference kind (fun _ => (edited, ())) located).1 = request := by
  rw [draftRepeat, bind_eq_ok_iff]
  simp only [ensureAlive_eq_ok_iff]
  constructor
  · rintro ⟨_, _, ⟨alive, rfl⟩, drafted⟩
    obtain ⟨_, _, here, drafted⟩ := bind_eq_ok_iff.1 drafted
    obtain ⟨rfl, rfl⟩ := form_eq_ok_iff.1 here
    refine ⟨alive, ?_⟩
    split at drafted
    · cases drafted
    · next free =>
      simp only [bind_eq_ok_iff, boundAssignment_eq_ok_iff, nestedDocument_eq_ok_iff,
        form_eq_ok_iff, ofReference_eq_ok_iff] at drafted
      obtain ⟨context, _, ⟨bound, rfl⟩, document, _, ⟨nested, rfl⟩, _, _, ⟨rfl, rfl⟩, found, _,
        ⟨located, rfl⟩, edited, middle, ran, drafted⟩ := drafted
      refine ⟨by simpa using free, ?_⟩
      cases edited with
      | none => cases (pure_eq_ok_iff.1 drafted).1
      | some edited =>
        obtain ⟨made, rfl⟩ := pure_eq_ok_iff.1 drafted
        exact ⟨context, document, _, found, edited, bound, nested, Prod.ext rfl located, ran,
          Option.some.inj made⟩
  · rintro ⟨alive, free, context, document, located, found, edited, bound, nested, there, ran, made⟩
    refine ⟨(), s, ⟨alive, rfl⟩, bind_eq_ok_iff.2 ⟨s.form, s, form_eq_ok_iff.2 ⟨rfl, rfl⟩, ?_⟩⟩
    rw [free, if_neg Bool.false_ne_true]
    simp only [bind_eq_ok_iff, boundAssignment_eq_ok_iff, nestedDocument_eq_ok_iff,
      form_eq_ok_iff, ofReference_eq_ok_iff]
    refine ⟨context, s, ⟨bound, rfl⟩, document, s, ⟨nested, rfl⟩, _, s, ⟨rfl, rfl⟩, found, s,
      ⟨by rw [there], rfl⟩, some edited, s', ran, ?_⟩
    rw [there]
    exact pure_eq_ok_iff.2 ⟨congrArg some made, rfl⟩

theorem prepareRepeat_eq_ok_some_iff :
    prepareRepeat reference kind operation s = .ok (some prepared) s' ↔
      ∃ request middle, draftRepeat reference kind operation s = .ok (some request) middle ∧
        ⟨s.form.tickets.issue.1, request, some reference⟩ = prepared ∧
        { middle with form := s.form.commit (some reference) } = s' := by
  rw [prepareRepeat_eq, bind_eq_ok_iff]
  constructor
  · rintro ⟨request, middle, drafted, committed⟩
    have same := form_of_draftRepeat drafted
    cases request with
    | none => cases (pure_eq_ok_iff.1 committed).1
    | some request =>
      simp only [commitRepeat, bind_eq_ok_iff, clearErrors, changeForm_eq_ok_iff,
        issueTicket_eq_ok_iff, pure_eq_ok_iff] at committed
      obtain ⟨_, _, rfl, _, _, rfl, _, _, ⟨rfl, rfl⟩, made, rfl⟩ := committed
      rw [← same]
      exact ⟨request, middle, drafted, Option.some.inj made, rfl⟩
  · rintro ⟨request, middle, drafted, rfl, rfl⟩
    refine ⟨some request, middle, drafted, ?_⟩
    rw [← form_of_draftRepeat drafted]
    rfl

/-- A row operation that fails or is cancelled leaves what its draft leaves. -/
theorem after_prepareRepeat
    (idle : ∀ prepared later,
      prepareRepeat reference kind operation s ≠ .ok (some prepared) later) :
    (prepareRepeat reference kind operation).after s =
      (draftRepeat reference kind operation).after s := by
  rw [prepareRepeat_eq, after_bind, after]
  cases drafted : draftRepeat reference kind operation s with
  | error error middle => rfl
  | ok request middle =>
    cases request with
    | none => rfl
    | some request =>
      exact absurd (prepareRepeat_eq_ok_some_iff.2 ⟨request, middle, drafted, rfl, rfl⟩)
        (idle _ _)

/-- A row operation that fails or is cancelled leaves the form as it was. -/
theorem form_after_prepareRepeat
    (idle : ∀ prepared later,
      prepareRepeat reference kind operation s ≠ .ok (some prepared) later) :
    ((prepareRepeat reference kind operation).after s).form = s.form := by
  rw [after_prepareRepeat idle, form_after_draftRepeat]

/-! ### What is prepared -/

/-- From a situation a request is prepared: the form is open, and the request takes the next ticket,
is for the case, the assignment and the action that the form is on, and marks a structure that was
not marked. -/
structure Prepares (prepared : PreparedRefresh) (s later : Situation) : Prop where
  alive : s.form.alive = true
  ticket : prepared.ticket = s.form.tickets.issue.1
  request : ∃ context content, s.form.assignment = some context ∧
    prepared.request = actionRequest context content
  free : ∀ place, prepared.container = some place → s.form.loading.contains place = false
  form : later.form = s.form.commit prepared.container

theorem prepares_of_prepareRefresh (ok : prepareRefresh pairs s = .ok prepared s') :
    Prepares prepared s s' := by
  obtain ⟨request, drafted, rfl, rfl⟩ := prepareRefresh_eq_ok_iff.1 ok
  obtain ⟨alive, context, _, content, bound, -, -, made, -⟩ := draftRefresh_eq_ok_iff.1 drafted
  exact ⟨alive, rfl, ⟨context, content, bound, made.symm⟩, nofun, rfl⟩

theorem prepares_of_prepareRepeat
    (ok : prepareRepeat reference kind operation s = .ok (some prepared) s') :
    Prepares prepared s s' := by
  obtain ⟨request, middle, drafted, rfl, rfl⟩ := prepareRepeat_eq_ok_some_iff.1 ok
  obtain ⟨alive, free, context, _, _, _, _, bound, -, -, -, made⟩ :=
    draftRepeat_eq_ok_some_iff.1 drafted
  refine ⟨alive, rfl, ⟨context, _, bound, made.symm⟩, ?_, rfl⟩
  rintro place ⟨⟩
  exact free

/-! ### Refusals -/

/-- The operation is not refused for a row operation on its way. -/
def NeverBusy {α : Type} (run : Run α) : Prop :=
  ∀ s place later, run s ≠ .error (.repeatBusy place) later

namespace NeverBusy

variable {α β : Type}

theorem bind {first : Run α} {next : α → Run β} (before : NeverBusy first)
    (rest : ∀ value, NeverBusy (next value)) : NeverBusy (first >>= next) := by
  intro s place later
  cases ran : first s with
  | ok value middle =>
    rw [bind_of_ok ran]
    exact rest value middle place later
  | error error middle =>
    rw [bind_of_error ran]
    intro refused
    cases refused
    exact before s place later ran

theorem of_looks {run : Run α} (looks : Looks run) : NeverBusy run := by
  intro s place later refused
  have here := looks s
  rw [refused] at here
  exact here.2.2 place rfl

theorem editRepeated (reference : String) (operation : RepeatOperation) (repeated : Repeated) :
    NeverBusy (Run.editRepeated reference operation repeated) := by
  cases repeated with
  | rows rows => exact of_looks (.pure _)
  | entries entries =>
    obtain ⟨next, looks, same⟩ := exists_editRepeated_entries reference operation entries
    rw [same]
    -- The prompt itself does not fail.
    exact bind (fun s place later => nofun) fun entered => of_looks (looks entered)

theorem commitRepeat (reference : String) (request : Option ActionRequest) :
    NeverBusy (Run.commitRepeat reference request) := by
  cases request with
  | none => exact of_looks (.pure none)
  | some request =>
    intro s place later absurd
    cases absurd

end NeverBusy

/-- A row operation on an open form is refused as busy just if the structure is marked. -/
theorem prepareRepeat_eq_busy_iff (alive : s.form.alive = true) {place : String} :
    (∃ later, prepareRepeat reference kind operation s = .error (.repeatBusy place) later) ↔
      s.form.loading.contains reference = true ∧ reference = place := by
  cases marked : s.form.loading.contains reference with
  | true =>
    have refused : prepareRepeat reference kind operation s = .error (.repeatBusy reference) s := by
      rw [prepareRepeat, bind_of_ok (ensureAlive_of_alive alive),
        bind_of_ok (form_eq_ok_iff.2 ⟨rfl, rfl⟩), marked]
      rfl
    rw [refused]
    constructor
    · rintro ⟨later, same⟩
      cases same
      exact ⟨rfl, rfl⟩
    · rintro ⟨-, rfl⟩
      exact ⟨s, rfl⟩
  | false =>
    have free : ¬ ∃ later,
        prepareRepeat reference kind operation s = .error (.repeatBusy place) later := by
      rintro ⟨later, refused⟩
      rw [prepareRepeat, bind_of_ok (ensureAlive_of_alive alive),
        bind_of_ok (form_eq_ok_iff.2 ⟨rfl, rfl⟩), marked, if_neg Bool.false_ne_true] at refused
      refine absurd refused
        (NeverBusy.bind (.of_looks .boundAssignment) (fun context => ?_) s place later)
      refine .bind (.of_looks .nestedDocument) fun document => ?_
      refine .bind (.of_looks .form) fun found => ?_
      refine .bind (.of_looks (.ofReference _)) fun repeated => ?_
      refine .bind (.editRepeated reference operation repeated) fun edited => ?_
      cases edited with
      | none => exact .of_looks (.pure none)
      | some edited => exact .commitRepeat reference (some _)
    simp [free]

end Run

end CaseForm

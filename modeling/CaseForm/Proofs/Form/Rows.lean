import CaseForm.Proofs.Document.Container
import CaseForm.Proofs.Form.Responses

/-!
Row operations that are on their way together.

Rows are added and removed in the outgoing document alone, and the edited values do not change until
the answer comes. So of two row operations that are prepared one after another the second knows
nothing of the first: its request carries the document of the edited values with its own change and
no other (`RowChange`). And since the second request supersedes the first, the answer to the first
is dropped whenever it comes.

* `row_requests_stand_alone`: what the requests carry, and what becomes of the first answer;
* `row_request_leaves_out_other`: a row that the second request does not carry.
-/

namespace CaseForm

/-- A content is a document with a row operation on one repeating structure: the structure that is
located in the document gives way to what the operation makes of it. -/
def RowChange (reference : String) (kind : RepeatKind) (operation : RepeatOperation)
    (s : Situation) (document content : Json) : Prop :=
  ∃ located held edited asked,
    s.form.addressing.locate reference kind document = (located, .ok held) ∧
    Run.editRepeated reference operation held s = .ok (some edited) asked ∧
    s.form.addressing.edit reference kind (fun _ => (edited, ())) document = (content, .ok ())

namespace Run

variable {s s' : Situation} {prepared : PreparedRefresh} {reference : String} {kind : RepeatKind}
  {operation : RepeatOperation}

/-- The request of a row operation carries the submission document with its own change. -/
theorem rowChange_of_prepareRepeat
    (ready : prepareRepeat reference kind operation s = .ok (some prepared) s') :
    prepared.container = some reference ∧ ∃ document, s.form.document = .ok document ∧
      RowChange reference kind operation s document prepared.request.content := by
  obtain ⟨request, middle, drafted, rfl, -⟩ := prepareRepeat_eq_ok_some_iff.1 ready
  obtain ⟨-, -, context, document, located, held, edited, -, nested, there, ran, rfl⟩ :=
    draftRepeat_eq_ok_some_iff.1 drafted
  obtain ⟨content, first, second⟩ := Addressing.edit_of_locate there fun _ => (edited, ())
  refine ⟨rfl, document, nested, located, held, edited, middle, there, ran, ?_⟩
  rw [second]
  exact first

end Run

namespace RowChange

variable {s also : Situation} {reference other : String} {kind otherKind : RepeatKind}
  {operation otherOperation : RepeatOperation} {document otherDocument content later : Json}
  {path otherPath : Path}

/-- Beside its own structure a row operation changes no structure of another request, but may lose
it where a list gives way to an object. -/
theorem get?_eq (change : RowChange reference kind operation s document content)
    (next : RowChange other otherKind otherOperation also otherDocument later)
    (parsed : s.form.addressing.parse reference = .ok path)
    (otherParsed : also.form.addressing.parse other = .ok otherPath)
    (before : ¬ path.address <+: otherPath.address)
    (below : ¬ otherPath.address <+: path.address) :
    later.get? path.address = content.get? path.address ↔
      ¬ otherPath.Loses path.address ∧
        otherDocument.get? path.address = content.get? path.address := by
  obtain ⟨_, _, edited, _, -, -, changed⟩ := change
  obtain ⟨_, _, _, _, -, -, changes⟩ := next
  obtain ⟨_, _, -, -, there⟩ := Addressing.get?_edit_self changed parsed
  by_cases loses : otherPath.Loses path.address
  · rw [Addressing.get?_edit_of_loses changes otherParsed loses, there]
    simp [loses]
  · obtain ⟨list, name, member⟩ := Addressing.exists_address_eq changed parsed
    rw [member] at before below loses ⊢
    rw [Addressing.get?_edit_of_member changes otherParsed before below loses]
    simp [loses]

end RowChange

/-- A row operation that is prepared while another is on its way does not carry the change of the
other. The other left the submission document as it was, and the new request carries the submission
document with its own change alone: where the structures are apart, the other one stands in it as in
the edited values, so it is the changed one only if the change made no difference. Nor does the
change come with the answer to the other: that is late from now on, and releases its loading mark
only. -/
theorem row_requests_stand_alone {s first last : Situation} {reference other : String}
    {kind otherKind : RepeatKind} {operation otherOperation : RepeatOperation}
    {prepared later : PreparedRefresh} {between : List Command}
    (ready : Run.prepareRepeat reference kind operation s = .ok (some prepared) first)
    (also : Run.prepareRepeat other otherKind otherOperation (Command.runAll between first).2 =
      .ok (some later) last) :
    first.form.document = s.form.document ∧
    (∃ document, (Command.runAll between first).2.form.document = .ok document ∧
      RowChange other otherKind otherOperation (Command.runAll between first).2 document
        later.request.content ∧
      ∀ path otherPath, s.form.addressing.parse reference = .ok path →
        (Command.runAll between first).2.form.addressing.parse other = .ok otherPath →
        ¬ path.address <+: otherPath.address → ¬ otherPath.address <+: path.address →
        (later.request.content.get? path.address = prepared.request.content.get? path.address ↔
          ¬ otherPath.Loses path.address ∧
            document.get? path.address = prepared.request.content.get? path.address)) ∧
    ∀ afterwards reply,
      let arrived := (Command.runAll afterwards last).2
      (Command.applyRefresh prepared reply).step arrived =
        (.ok (.refreshed (if arrived.form.alive then .superseded else .disposed)),
          arrived.release (some reference)) := by
  have prepares := Run.prepares_of_prepareRepeat ready
  have follows := Run.prepares_of_prepareRepeat also
  obtain ⟨container, _, -, change⟩ := Run.rowChange_of_prepareRepeat ready
  obtain ⟨-, document, nested, next⟩ := Run.rowChange_of_prepareRepeat also
  refine ⟨?_, ⟨document, nested, next, fun _ _ parsed otherParsed before below =>
    change.get?_eq next parsed otherParsed before below⟩, ?_⟩
  · rw [prepares.form]
    rfl
  · intro afterwards reply arrived
    have leads (commands : List Command) (situation : Situation) :=
      (Command.leads_runAll Advances.frame.refl Advances.frame.trans Command.advances commands
        situation).latest
    have toLater := leads between first
    have toAnswer := leads afterwards last
    have here := prepares.holds.1
    have there := follows.holds.1
    have issued : later.ticket.seq =
        (Command.runAll between first).2.form.tickets.latest + 1 := by
      rw [follows.ticket]
      rfl
    have earlier : prepared.ticket.seq < arrived.form.tickets.latest := by
      change _ < (Command.runAll afterwards last).2.form.tickets.latest
      omega
    have past := Run.isPast_of_lt earlier
    rw [Command.step_applyRefresh, if_pos past, container]

/-- An open form on an assignment, with one row in each of two lists. -/
def openLists : Situation :=
  (Command.runAll [.edit "A(1).x" (.text "1"), .edit "B(1).y" (.text "2")] openAction).2

/-- A row has been added to one list, and a row of it was edited before a row was added to another:
the answer to the first comes late. -/
theorem first_row_answer_late :
    let prepared : PreparedRefresh := ⟨⟨1⟩, ⟨"C", "A", "B",
      .obj [("A", .arr [.obj [("x", .str "1")], .obj [("x", .str "")]]),
        ("B", .arr [.obj [("y", .str "2")]])]⟩, some "A"⟩
    let first := (Run.prepareRepeat "A" .list .add).after openLists
    let edited := (Command.runAll [.edit "A(1).x" (.text "3")] first).2
    let last := (Run.prepareRepeat "B" .list .add).after edited
    first.form.document = openLists.form.document ∧
      ((Command.applyRefresh prepared (.ok ⟨"V", true, [], none⟩)).step last).1 =
        .ok (.refreshed .superseded) := by
  intro prepared first edited last
  have ready : Run.prepareRepeat "A" .list .add openLists = .ok (some prepared) first := rfl
  have also : ∃ later, Run.prepareRepeat "B" .list .add edited = .ok (some later) last :=
    ⟨_, rfl⟩
  obtain ⟨later, also⟩ := also
  obtain ⟨same, -, late⟩ := row_requests_stand_alone ready also
  have answer := congrArg Prod.fst (late [] (.ok ⟨"V", true, [], none⟩))
  exact ⟨same, answer⟩

/-- Once a row has been added to one list, the request for a row of another carries that list as it
was. -/
theorem row_request_leaves_out_other :
    ∃ prepared first later last,
      Run.prepareRepeat "A" .list .add openLists = .ok (some prepared) first ∧
      Run.prepareRepeat "B" .list .add first = .ok (some later) last ∧
      prepared.request.content.get? [.member "A"] =
        some (.arr [.obj [("x", .str "1")], .obj [("x", .str "")]]) ∧
      later.request.content.get? [.member "A"] = some (.arr [.obj [("x", .str "1")]]) ∧
      later.request.content.get? [.member "B"] =
        some (.arr [.obj [("y", .str "2")], .obj [("y", .str "")]]) :=
  ⟨_, _, _, _, rfl, rfl, rfl, rfl, rfl⟩

end CaseForm

import CaseForm.Proofs.Document.Located
import CaseForm.Proofs.Document.Sequence
import CaseForm.Proofs.Form.Rows

/-!
Keys of groups.

A form asks for the key of a new entry. It refuses a blank answer and a key that is there already,
and takes any other. Whether the entry can be addressed afterwards is up to the grammar of
references, which does not read every text as a key (`Addressing.ReadsKey`). Where it does, the
fields of the entry nest into the group as they nest on their own: a walk to the group goes on into
the entry (`Document.enter_groupEntry`), one write into the entry is one write through the group
(`Addressing.write_entryReference`), and so are several (`Addressing.nests_of_readsKey`).

* `Run.adds_of_prepareRepeat`: what the form accepts, and what its request carries;
* `accepted_key_addressable`: which of the accepted keys can be addressed.
-/

namespace CaseForm

/-! ### Walking into an entry -/

namespace Document

variable {members : Entries Json}

/-- A group that is found is entered at any key. -/
theorem enter_groupEntry {name : String} {entries : Entries Json}
    (finds : repeated? .group ((Entries.get? name members).getD .null) = some (.entries entries))
    (key : String) :
    enter (.groupEntry name key) members =
      some ⟨((Entries.get? key entries).getD .null).members,
        fun inner => Entries.set name (.obj (Entries.set key (.obj inner) entries)) members⟩ := by
  rw [enter]
  generalize (Entries.get? name members).getD .null = slot at finds ⊢
  cases slot <;> cases finds <;> rfl

end Document

/-! ### Writing the fields of an entry -/

namespace Addressing

open Document

variable {addressing : Addressing} {reference name key field : String} {containers : List Segment}
  {value document next inner located : Json} {entries : Entries Json}

/-- What is looked for as a group is a group. -/
theorem exists_entries_of_locate {held : Repeated}
    (finds : addressing.locate reference .group document = (located, .ok held)) :
    ∃ entries, held = .entries entries := by
  cases held with
  | entries entries => exact ⟨entries, rfl⟩
  | rows rows => cases (locate_again finds).1

/-- A group that takes the place of a repeating structure is found there. -/
theorem locate_of_edit
    (edited : addressing.edit reference .group (fun _ => (.entries entries, ())) document =
      (next, .ok ())) :
    addressing.locate reference .group next = (next, .ok (.entries entries)) := by
  obtain ⟨containers, name, found, _, parsed, ends, -, rfl, -⟩ := edit_eq_ok_iff.1 edited
  exact locate_rebuilt parsed ends (.entries entries)

/-- Where a group is found, a field of an entry is written as it is written into the entry. -/
theorem write_entryReference (parsed : addressing.parse reference = .ok ⟨containers, .page name⟩)
    (reads : addressing.ReadsKey name key)
    (finds : addressing.locate reference .group document = (located, .ok (.entries entries)))
    (written : addressing.write field value ((Entries.get? key entries).getD .null) =
      (inner, .ok ())) :
    ∃ next also, addressing.write (entryReference reference key field) value document =
        (next, .ok ()) ∧
      addressing.locate reference .group next =
        (also, .ok (.entries (Entries.set key inner entries))) := by
  obtain ⟨_, _, found, _, same, ends, stands, -, rfl⟩ := edit_eq_ok_iff.1 finds
  rw [parsed] at same
  cases same
  obtain ⟨within, inside, enters⟩ := (write_eq_ok_iff ..).1 written
  rw [Path.strides, put_strides "" _ _ _ _ _ (by simp)] at enters
  obtain ⟨done, made⟩ := Change.document?_eq_some_iff.1 enters
  have outer : put value
      (Path.mk (containers ++ .groupEntry name key :: within.containers) within.leaf).strides
      document =
        some (.obj (found.rebuild
          (Entries.set name (.obj (Entries.set key inner entries)) found.inner))) := by
    rw [Path.strides, put_strides "" _ _ _ _ _ (by simp), walk_append, walk_of_focus ends,
      walk_cons, enter_groupEntry stands]
    refine Change.document?_eq_some_iff.2 ⟨done, ?_⟩
    rw [← made]
  refine ⟨_, _, (write_eq_ok_iff ..).2 ⟨_, parse_entryReference parsed reads inside, outer⟩,
    edit_eq_ok_iff.2 ⟨containers, name, _, .entries (Entries.set key inner entries), parsed,
      focus_rebuild ends _, ?_, rfl, rfl⟩⟩
  rw [Entries.get?_set_self]
  rfl

/-- The fields of an entry nest into a group as they nest into the entry on their own, and the
other entries stay as they are. -/
def Nests (addressing : Addressing) (reference key : String) : Prop :=
  ∀ (document located inner : Json) (entries : Entries Json) (fields : List (String × Json)),
    addressing.locate reference .group document = (located, .ok (.entries entries)) →
    addressing.writeAll fields ((Entries.get? key entries).getD .null) = .ok inner →
    ∃ next also kept,
      addressing.writeAll
        (fields.map fun pair => (entryReference reference key pair.1, pair.2)) document = .ok next ∧
      addressing.locate reference .group next = (also, .ok (.entries kept)) ∧
      (Entries.get? key kept).getD .null = inner ∧
      ∀ other, other ≠ key → Entries.get? other kept = Entries.get? other entries

/-- A key that can be read nests: the fields are written one after another. -/
theorem nests_of_readsKey (parsed : addressing.parse reference = .ok ⟨containers, .page name⟩)
    (reads : addressing.ReadsKey name key) : addressing.Nests reference key := by
  intro document located inner entries fields finds written
  induction fields generalizing document located entries with
  | nil =>
    cases written
    exact ⟨document, located, entries, rfl, finds, rfl, fun _ _ => rfl⟩
  | cons pair fields ih =>
    obtain ⟨entry, first, rest⟩ := writeAll_cons_eq_ok_iff.1 written
    obtain ⟨next, also, outer, found⟩ := write_entryReference parsed reads finds first
    have held : (Entries.get? key (Entries.set key entry entries)).getD .null = entry := by
      rw [Entries.get?_set_self]
      rfl
    obtain ⟨last, there, kept, others, stands, value, same⟩ :=
      ih next also (Entries.set key entry entries) found (by rwa [held])
    refine ⟨last, there, kept, writeAll_cons_eq_ok_iff.2 ⟨next, outer, others⟩, stands, value, ?_⟩
    intro other ne
    rw [same other ne, Entries.get?_set_of_ne ne]

end Addressing

/-! ### What the form accepts -/

namespace Run

variable {s later : Situation} {reference entry : String} {prepared : PreparedRefresh}

/-- An answer that is not blank is the key, without the blanks around it. -/
theorem askForKey_of_entered {operation : RepeatOperation} {key : Option String}
    (asked : askForKey reference operation s = .ok key later)
    (entered : s.surroundings.takePrompt.1 = some entry) :
    Text.trim entry ≠ "" ∧ key = some (Text.trim entry) := by
  obtain ⟨_, _, recorded, asked⟩ := bind_eq_ok_iff.1 asked
  cases recorded
  obtain ⟨answer, _, taken, asked⟩ := bind_eq_ok_iff.1 asked
  -- The question is kept before the answer is taken, and is no answer.
  have same : answer = s.surroundings.takePrompt.1 := by
    cases taken
    unfold Surroundings.takePrompt Surroundings.record
    cases s.surroundings.prompts <;> rfl
  rw [same, entered] at asked
  dsimp only at asked
  split at asked
  · cases asked
  · next filled =>
    cases asked
    exact ⟨filled, rfl⟩

/-- An entry is added under what the user enters, without blanks around it, if that is not empty and
not a key already. -/
theorem editRepeated_add {entries : Entries Json} {edited : Repeated}
    (ok : editRepeated reference .add (.entries entries) s = .ok (some edited) later)
    (entered : s.surroundings.takePrompt.1 = some entry) :
    Text.trim entry ≠ "" ∧ Entries.contains (Text.trim entry) entries = false ∧
      edited = .entries (Entries.set (Text.trim entry) (Repeated.entries entries).template
        entries) := by
  obtain ⟨key, _, asked, ok⟩ := bind_eq_ok_iff.1 ok
  obtain ⟨filled, rfl⟩ := askForKey_of_entered asked entered
  refine ⟨filled, ?_⟩
  obtain ⟨next, _, added, ok⟩ := bind_eq_ok_iff.1 ok
  cases ok
  unfold editEntries Repeated.insertBlank at added
  cases there : Entries.contains (Text.trim entry) entries with
  | true =>
    simp only [there] at added
    cases added
  | false =>
    simp only [there] at added
    cases added
    exact ⟨rfl, rfl⟩

/-- A row operation that adds an entry to a group carries the group with the entry. -/
theorem adds_of_prepareRepeat
    (ready : prepareRepeat reference .group .add s = .ok (some prepared) later)
    (entered : s.surroundings.takePrompt.1 = some entry) :
    Text.trim entry ≠ "" ∧ ∃ document located found entries,
      s.form.document = .ok document ∧
      s.form.addressing.locate reference .group document = (located, .ok (.entries entries)) ∧
      Entries.contains (Text.trim entry) entries = false ∧
      s.form.addressing.locate reference .group prepared.request.content =
        (found, .ok (.entries (Entries.set (Text.trim entry) (Repeated.entries entries).template
          entries))) := by
  obtain ⟨-, document, nested, located, held, edited, _, finds, ran, changed⟩ :=
    rowChange_of_prepareRepeat ready
  obtain ⟨entries, rfl⟩ := Addressing.exists_entries_of_locate finds
  obtain ⟨filled, free, rfl⟩ := editRepeated_add ran entered
  have there := Addressing.locate_of_edit changed
  exact ⟨filled, document, located, _, entries, nested, finds, free, there⟩

end Run

/-- When a group key that the form accepts can be addressed. The form asks for the key of a new
entry and takes any answer that is not blank and is no key of the group yet, and its request carries
the group with an entry under that key. A reference to a field of the new entry can be read, with
the entry in front of the field, just if the key has no dots and no parentheses, is no whole number
of 64 bits and does not make the entry look like the marker of the root page. Then whatever fields
the server returns for the entry nest into the group as they nest on their own, beside the entries
that are there. -/
theorem accepted_key_addressable {s later : Situation} {reference entry : String}
    {prepared : PreparedRefresh}
    (ready : Run.prepareRepeat reference .group .add s = .ok (some prepared) later)
    (entered : s.surroundings.takePrompt.1 = some entry) :
    let addressing := s.form.addressing
    let key := Text.trim entry
    (key ≠ "" ∧ ∃ document located found entries,
      s.form.document = .ok document ∧
      addressing.locate reference .group document = (located, .ok (.entries entries)) ∧
      Entries.contains key entries = false ∧
      addressing.locate reference .group prepared.request.content =
        (found, .ok (.entries (Entries.set key (Repeated.entries entries).template entries)))) ∧
    ∃ containers name, addressing.parse reference = .ok ⟨containers, .page name⟩ ∧
      (∀ field leaf, addressing.parse field = .ok ⟨[], leaf⟩ →
        ((∃ path, addressing.parse (entryReference reference key field) = .ok path ∧
            path.containers.getLast? = some (.groupEntry name key)) ↔
          addressing.ReadsKey name key)) ∧
      (addressing.ReadsKey name key → addressing.Nests reference key) := by
  intro addressing key
  have adds := Run.adds_of_prepareRepeat ready entered
  refine ⟨adds, ?_⟩
  obtain ⟨-, _, _, _, _, -, finds, -⟩ := adds
  obtain ⟨containers, name, _, _, parsed, -⟩ := Addressing.edit_eq_ok_iff.1 finds
  refine ⟨containers, name, parsed, ?_, Addressing.nests_of_readsKey parsed⟩
  intro field leaf inside
  constructor
  · rintro ⟨path, read, last⟩
    exact Addressing.readsKey_of_parse parsed inside read last
  · intro reads
    exact ⟨_, Addressing.parse_entryReference parsed reads inside, by simp⟩

/-- A view with accounts, each with a balance. -/
def accountsView (balances : List (String × String)) : View :=
  ⟨"V", true, balances.map fun balance => .field { Field.record.blank with
    reference := balance.1
    value := .str balance.2 }, none⟩

/-- An open form with one account, whose user enters something when asked for a key. -/
def openAccounts (entry : String) : Situation where
  form := Form.build (.ofSettings {}) {} (.start "" "")
    (.assignment ⟨"C", "A", "B", none⟩ (accountsView [("Accounts(Primary).Balance", "1")]))
  surroundings := { prompts := [some entry] }

/-- A word between blanks is accepted as a key, and can be addressed. -/
theorem accepted_word_addressable :
    let addressing := (openAccounts " Savings ").form.addressing
    (∃ path, addressing.parse (entryReference "Accounts" "Savings" "Balance") = .ok path ∧
      path.containers.getLast? = some (.groupEntry "Accounts" "Savings")) ∧
    addressing.Nests "Accounts" "Savings" := by
  intro addressing
  obtain ⟨prepared, later, ready⟩ : ∃ prepared later, Run.prepareRepeat "Accounts" .group .add
      (openAccounts " Savings ") = .ok (some prepared) later := ⟨_, _, rfl⟩
  obtain ⟨-, containers, name, parsed, reads, nests⟩ :=
    @accepted_key_addressable _ later "Accounts" " Savings " prepared ready rfl
  have plain : addressing.parse "Accounts" = .ok ⟨[], .page "Accounts"⟩ := rfl
  rw [plain] at parsed
  cases parsed
  have clear : addressing.ReadsKey "Accounts" (Text.trim " Savings ") := by decide
  exact ⟨(reads "Balance" (.page "Balance") rfl).2 clear, nests clear⟩

/-- A number is accepted as a key, but is read as a position. The values of the view that the server
answers with, which has the new account beside the old one, cannot be nested. -/
theorem accepted_number_not_addressable :
    let s := openAccounts "2"
    let answer :=
      accountsView [("Accounts(Primary).Balance", "1"), ("Accounts(2).Balance", "")]
    (∃ prepared later,
      Run.prepareRepeat "Accounts" .group .add s = .ok (some prepared) later) ∧
      s.form.addressing.parse (entryReference "Accounts" "2" "Balance") =
        .ok ⟨[.listItem "Accounts" 1], .page "Balance"⟩ ∧
      (s.form.restart answer).document =
        .error (.shapeConflict "Accounts(Primary).Balance" "Accounts(Primary)") :=
  ⟨⟨_, _, rfl⟩, rfl, rfl⟩

end CaseForm

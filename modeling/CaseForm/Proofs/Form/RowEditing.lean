import CaseForm.Form.Refresh

/-!
Row operations one after another.

A new row is the blank form of the first one. A list keeps its first row whatever is added and
removed at its end, so all its new rows are alike (`Run.Regrown`). In a group a new entry may come
to stand first and be what the next one is made like. It makes no difference, since a blank form is
its own blank form (`Json.blank_blank`), and so the template of a group stays the same
(`Repeated.template_insertBlank`).

* `Run.regrown_editRows`, `Run.regrown_editRowsAll`: lists;
* `Repeated.get?_insertAll`, `Repeated.getElem?_insertAll`: groups, and what the additions answer.
-/

namespace CaseForm

/-! ### Blank forms -/

namespace Json

mutual

/-- There is nothing to blank in a blank form. -/
theorem blank_blank (value : Json) : value.blank.blank = value.blank := by
  cases value with
  | obj members => rw [blank, blank, blankMembers_blankMembers]
  | arr items =>
    cases items with
    | nil => rw [blank, blank]
    | cons item items => rw [blank, blank, blank_blank item]
  | _ => rfl

theorem blankMembers_blankMembers (members : List (String × Json)) :
    blankMembers (blankMembers members) = blankMembers members := by
  cases members with
  | nil => rw [blankMembers, blankMembers]
  | cons member members =>
    rw [blankMembers, blankMembers, blank_blank, blankMembers_blankMembers members]

end

end Json

/-! ### Lists -/

namespace Run

variable {first : Json} {rest rows : List Json}

/-- Rows that begin with the first row, go on with rows behind it and end with blank forms of it. -/
def Regrown (first : Json) (rest rows : List Json) : Prop :=
  ∃ kept added, rows = first :: (rest.take kept ++ List.replicate added first.blank)

theorem Regrown.refl (first : Json) (rest : List Json) : Regrown first rest (first :: rest) :=
  ⟨rest.length, 0, by simp⟩

theorem Regrown.pushBlank (regrown : Regrown first rest rows) :
    Repeated.pushBlank rows = rows ++ [first.blank] := by
  obtain ⟨kept, added, rfl⟩ := regrown
  rfl

/-- The last row is removed if it is not the first one. -/
theorem popRow_cons (first : Json) (others : List Json) :
    Repeated.popRow (first :: others) = (first :: others.dropLast, !others.isEmpty) := by
  cases others with
  | nil => rfl
  | cons second others => simp [Repeated.popRow]

/-- A row behind the first one is removed, if there is one. -/
theorem Regrown.popRow (regrown : Regrown first rest rows) :
    Repeated.popRow rows = (first :: rows.tail.dropLast, !rows.tail.isEmpty) := by
  obtain ⟨kept, added, rfl⟩ := regrown
  exact popRow_cons first _

/-- A row that was added is removed again. -/
theorem Regrown.popRow_pushBlank (regrown : Regrown first rest rows) :
    Repeated.popRow (Repeated.pushBlank rows) = (rows, true) := by
  rw [regrown.pushBlank]
  obtain ⟨kept, added, rfl⟩ := regrown
  rw [List.cons_append, popRow_cons, List.dropLast_concat]
  simp

/-- An operation adds a blank form of the first row or removes a row behind it. -/
theorem regrown_editRows (regrown : Regrown first rest rows) (operation : RepeatOperation) :
    Regrown first rest (editRows operation rows) := by
  cases operation with
  | add =>
    rw [editRows, regrown.pushBlank]
    obtain ⟨kept, added, rfl⟩ := regrown
    refine ⟨kept, added + 1, ?_⟩
    rw [List.replicate_succ', List.cons_append, List.append_assoc]
  | remove =>
    obtain ⟨kept, added, rfl⟩ := regrown
    rw [editRows, popRow_cons]
    cases added with
    | succ added =>
      refine ⟨kept, added, ?_⟩
      rw [List.replicate_succ', ← List.append_assoc, List.dropLast_concat]
    | zero =>
      -- No blank rows are left, so one of the rows that were there before goes.
      refine ⟨(rest.take kept).length - 1, 0, ?_⟩
      have within : (rest.take kept).length ≤ kept := List.length_take_le kept rest
      have fewer : min ((rest.take kept).length - 1) kept = (rest.take kept).length - 1 := by
        omega
      rw [List.replicate_zero, List.append_nil, List.append_nil, List.dropLast_eq_take,
        List.take_take, fewer]

/-- The rows of a list after operations one after another. -/
def editRowsAll (operations : List RepeatOperation) (rows : List Json) : List Json :=
  operations.foldl (fun rows operation => editRows operation rows) rows

/-- One more operation is done on the rows so far. -/
theorem editRowsAll_concat (operations : List RepeatOperation) (operation : RepeatOperation)
    (rows : List Json) :
    editRowsAll (operations ++ [operation]) rows =
      editRows operation (editRowsAll operations rows) := by
  rw [editRowsAll, List.foldl_append]
  rfl

theorem regrown_editRowsAll (regrown : Regrown first rest rows)
    (operations : List RepeatOperation) : Regrown first rest (editRowsAll operations rows) := by
  induction operations generalizing rows with
  | nil => exact regrown
  | cons operation operations ih => exact ih (regrown_editRows regrown operation)

end Run

/-! ### Groups -/

namespace Repeated

/-- An addition answers whether the key was new. -/
theorem insertBlank_snd (key : String) (entries : Entries Json) :
    (insertBlank key entries).2 = !Entries.contains key entries := by
  rw [insertBlank]
  cases Entries.contains key entries <;> rfl

/-- An addition gives a new key the template, and changes no other. -/
theorem get?_insertBlank (key other : String) (entries : Entries Json) :
    Entries.get? other (insertBlank key entries).1 =
      (Entries.get? other entries).or
        (if other = key then some (Repeated.entries entries).template else none) := by
  rw [insertBlank, Entries.contains]
  cases there : Entries.get? key entries with
  | some value =>
    by_cases same : other = key
    · simp [same, there]
    · simp [same]
  | none =>
    simp only [Option.isSome_none, Bool.false_eq_true, if_false, Entries.get?_set]
    by_cases same : other = key
    · simp [same, there]
    · simp [same]

/-- An entry that comes to stand first is like the one that stood there. -/
theorem template_insertBlank (key : String) (entries : Entries Json) :
    (Repeated.entries (insertBlank key entries).1).template =
      (Repeated.entries entries).template := by
  rw [insertBlank]
  split
  · rfl
  · next fresh =>
    cases entries with
    | nil => rfl
    | cons entry rest =>
      obtain ⟨k, value⟩ := entry
      rw [Entries.set]
      by_cases same : k = key
      · exact absurd (by simp [Entries.contains, Entries.get?, same]) fresh
      · rw [if_neg same]
        by_cases before : key < k
        · rw [if_pos before]
          exact Json.blank_blank value
        · rw [if_neg before]
          rfl

/-- Blank entries added under keys one after another, and what the additions answer. -/
def insertAll : List String → Entries Json → Entries Json × List Bool
  | [], members => (members, [])
  | key :: keys, members =>
    let (next, added) := insertBlank key members
    let (last, answers) := insertAll keys next
    (last, added :: answers)

theorem insertAll_cons (key : String) (keys : List String) (entries : Entries Json) :
    insertAll (key :: keys) entries =
      ((insertAll keys (insertBlank key entries).1).1,
        (insertBlank key entries).2 :: (insertAll keys (insertBlank key entries).1).2) := rfl

/-- Additions give all new keys the template of the group as it was before them. -/
theorem get?_insertAll (keys : List String) (entries : Entries Json) (key : String) :
    Entries.get? key (insertAll keys entries).1 =
      (Entries.get? key entries).or
        (if key ∈ keys then some (Repeated.entries entries).template else none) := by
  induction keys generalizing entries with
  | nil => simp [insertAll]
  | cons first keys ih =>
    rw [insertAll_cons, ih, template_insertBlank, get?_insertBlank, Option.or_assoc]
    by_cases same : key = first <;> simp [same]

/-- Each addition answers whether its key was new at its turn. -/
theorem getElem?_insertAll (before : List String) (key : String) (after : List String)
    (entries : Entries Json) :
    (insertAll (before ++ key :: after) entries).2[before.length]? =
      some (!Entries.contains key (insertAll before entries).1) := by
  induction before generalizing entries with
  | nil => exact congrArg some (insertBlank_snd key entries)
  | cons first before ih => exact ih (insertBlank first entries).1

end Repeated

/-- Row operations one after another. Let a list have a first row. After any additions and removals
it still has this first row; behind it stand some of the rows that stood there, and then blank forms
of the first row. One more addition adds another one to the rows so far, and one more removal takes
away the last of them, if it is not the first. To remove an added row again restores the list. To a
group, with or without entries, blank entries are added under any keys. Then every key that was
there has its entry as it was, every other key that was added has the template of the group as it
was at the beginning, and no further key has an entry. Each addition answers no just if its key was
there at its turn. -/
theorem row_editing_stable :
    (∀ (first : Json) (rest : List Json) (operations : List RepeatOperation),
      let rows := Run.editRowsAll operations (first :: rest)
      rows.head? = some first ∧
      (∃ kept added, rows = first :: (rest.take kept ++ List.replicate added first.blank)) ∧
      Run.editRowsAll (operations ++ [.add]) (first :: rest) = Repeated.pushBlank rows ∧
      Run.editRowsAll (operations ++ [.remove]) (first :: rest) = (Repeated.popRow rows).1 ∧
      Repeated.pushBlank rows = rows ++ [first.blank] ∧
      Repeated.popRow rows = (first :: rows.tail.dropLast, !rows.tail.isEmpty) ∧
      Repeated.popRow (Repeated.pushBlank rows) = (rows, true)) ∧
    ∀ (entries : Entries Json) (before : List String) (key : String) (after : List String),
      let keys := before ++ key :: after
      (∀ other, Entries.get? other (Repeated.insertAll keys entries).1 =
        (Entries.get? other entries).or
          (if other ∈ keys then some (Repeated.entries entries).template else none)) ∧
      (Repeated.insertAll keys entries).2[before.length]? =
        some (!Entries.contains key (Repeated.insertAll before entries).1) := by
  constructor
  · intro first rest operations rows
    have regrown : Run.Regrown first rest rows :=
      Run.regrown_editRowsAll (.refl first rest) operations
    have begins : rows.head? = some first := by
      obtain ⟨kept, added, same⟩ := regrown
      rw [same]
      rfl
    exact ⟨begins, regrown, Run.editRowsAll_concat operations .add _,
      Run.editRowsAll_concat operations .remove _, regrown.pushBlank, regrown.popRow,
      regrown.popRow_pushBlank⟩
  · intro entries before key after keys
    refine ⟨?_, Repeated.getElem?_insertAll before key after entries⟩
    exact Repeated.get?_insertAll keys entries

/-- A row with a name and two tags. -/
def filledRow (name : String) : Json :=
  .obj [("Name", .str name), ("Tags", .arr [.str "x", .str "y"])]

/-- The blank form of such a row, with one tag. -/
def clearedRow : Json := .obj [("Name", .str ""), ("Tags", .arr [.str ""])]

/-- A list of three rows loses the last one, and of two new rows the second is removed again. In a
group a new entry comes to stand first, and the next one is still a blank form of the old entry; the
keys that are there are refused. -/
theorem filled_rows_edited :
    (let operations := [.remove, .add, .add, .remove]
    let rows :=
      Run.editRowsAll operations [filledRow "Ada", filledRow "Bob", filledRow "Eve"]
    rows = [filledRow "Ada", filledRow "Bob", clearedRow] ∧
      Run.editRowsAll (operations ++ [.add]) [filledRow "Ada", filledRow "Bob", filledRow "Eve"] =
        rows ++ [clearedRow] ∧
      Repeated.popRow (Repeated.pushBlank rows) = (rows, true)) ∧
    let keys := ["Key", "Able", "Zone", "Able"]
    let edited := Repeated.insertAll keys [("Key", filledRow "Ada")]
    edited = ([("Able", clearedRow), ("Key", filledRow "Ada"), ("Zone", clearedRow)],
        [false, true, true, false]) ∧
      Entries.get? "Zone" edited.1 =
        some (Repeated.entries [("Key", filledRow "Ada")]).template := by
  obtain ⟨lists, groups⟩ := row_editing_stable
  constructor
  · intro operations rows
    obtain ⟨-, -, adds, -, pushes, -, restores⟩ :=
      lists (filledRow "Ada") [filledRow "Bob", filledRow "Eve"] operations
    exact ⟨rfl, adds.trans pushes, restores⟩
  · intro keys edited
    exact ⟨rfl, (groups [("Key", filledRow "Ada")] [] "Key" ["Able", "Zone", "Able"]).1 "Zone"⟩

end CaseForm

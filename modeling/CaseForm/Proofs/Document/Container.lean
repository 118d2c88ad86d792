import CaseForm.Proofs.Document.Reach

/-!
Repeating structures in a document.

A walk that succeeds ends at the members of one container, and puts others in their place without
looking at them (`Document.focus`). So walks along the same containers after one another are one
walk with one change after another, and a repeating structure that was found is found again where
it was (`Addressing.edit_of_locate`). To find it is to write the empty structure along the path of
its reference, which leaves a structure that stands there already (`Document.put_of_focus`). Hence a
change of the structure shows at its address, and nowhere else: apart from it the document is as a
write along the path would leave it.

* `Addressing.get?_edit_self`: the structure at its address;
* `Addressing.get?_edit_of_apart`, `Addressing.get?_edit_of_loses`: the document apart from it.
-/

namespace CaseForm

/-- The kind of a repeating structure. -/
def Repeated.kind : Repeated → RepeatKind
  | .rows _ => .list
  | .entries _ => .group

namespace Document

/-- A place in nested members: the members that stand there, and the members of the root with others
in their place. -/
structure Focus where
  inner : Entries Json
  rebuild : Entries Json → Entries Json

/-- What a walk goes on from behind a segment, if the segment is not refused. -/
def enter (segment : Segment) (members : Entries Json) : Option Focus :=
  match segment with
  | .page name =>
    match (Entries.get? name members).getD .null with
    | .arr _ => none
    | found => some ⟨found.members, fun inner => Entries.set name (.obj inner) members⟩
  | .listItem name index =>
    match (Entries.get? name members).getD .null with
    | .obj _ => none
    | found =>
      let rows := padTo (index + 1) (.obj []) found.items
      some ⟨(rows.getD index .null).members,
        fun inner => Entries.set name (.arr (rows.set index (.obj inner))) members⟩
  | .groupEntry name key =>
    match (Entries.get? name members).getD .null with
    | .arr _ => none
    | found =>
      some ⟨((Entries.get? key found.members).getD .null).members,
        fun inner => Entries.set name (.obj (Entries.set key (.obj inner) found.members)) members⟩

/-- Where a walk through containers ends, if none of them is refused. -/
def focus : List Segment → Entries Json → Option Focus
  | [], members => some ⟨members, id⟩
  | segment :: rest, members =>
    (enter segment members).bind fun step =>
      (focus rest step.inner).map fun found => ⟨found.inner, step.rebuild ∘ found.rebuild⟩

variable {α : Type} {reference : String} {change : Entries Json → Change α} {segment : Segment}
  {containers : List Segment} {members : Entries Json} {found : Focus}

/-- A walk goes on from where its first segment leads. -/
theorem walk_cons (reference : String) (change : Entries Json → Change α) (segment : Segment)
    (rest : List Segment) (members : Entries Json) :
    walk reference change (segment :: rest) members =
      match enter segment members with
      | none => (members, .error (.shapeConflict reference segment.text))
      | some step =>
        let inner := walk reference change rest step.inner
        (step.rebuild inner.1, inner.2) := by
  cases segment <;> rw [walk, enter] <;> generalize (Entries.get? _ members).getD .null = held <;>
    cases held <;> rfl

/-- A walk may be broken off anywhere and gone on with. -/
theorem walk_append (further : List Segment) :
    walk reference change (containers ++ further) members =
      walk reference (walk reference change further) containers members := by
  induction containers generalizing members with
  | nil => rfl
  | cons segment rest ih =>
    rw [List.cons_append, walk_cons, walk_cons]
    simp only [ih]

/-- What a segment leads to is found again with other members in its place. -/
theorem enter_rebuild (leads : enter segment members = some found) (inner : Entries Json) :
    enter segment (found.rebuild inner) = some ⟨inner, found.rebuild⟩ := by
  cases segment with
  | page name =>
    rw [enter] at leads
    split at leads
    · cases leads
    · cases leads
      simp [enter, Entries.set_set, Json.members]
  | listItem name index =>
    rw [enter] at leads
    generalize (Entries.get? name members).getD .null = held at leads
    split at leads
    · cases leads
    · cases leads
      have long := le_length_padTo (index + 1) (.obj []) held.items
      generalize padTo (index + 1) (.obj []) held.items = rows at long
      have whole : padTo (index + 1) (.obj []) (rows.set index (.obj inner)) =
          rows.set index (.obj inner) := padTo_of_le (by rwa [List.length_set]) _
      simp [enter, Entries.set_set, Json.items, Json.members, whole, List.getD_eq_getElem?_getD,
        List.getElem?_set_self (Nat.lt_of_succ_le long)]
  | groupEntry name key =>
    rw [enter] at leads
    split at leads
    · cases leads
    · cases leads
      simp [enter, Entries.set_set, Json.members]

theorem get?_enter (leads : enter segment members = some found) (inner : Entries Json) :
    (Json.obj (found.rebuild inner)).get? segment.keys = some (.obj inner) := by
  cases segment with
  | page name =>
    rw [enter] at leads
    split at leads
    · cases leads
    · cases leads
      simp [Segment.keys, Json.get?_cons]
  | listItem name index =>
    rw [enter] at leads
    generalize (Entries.get? name members).getD .null = held at leads
    split at leads
    · cases leads
    · cases leads
      have long := le_length_padTo (index + 1) (.obj []) held.items
      simp [Segment.keys, Json.get?_cons, List.getElem?_set_self (Nat.lt_of_succ_le long)]
  | groupEntry name key =>
    rw [enter] at leads
    split at leads
    · cases leads
    · cases leads
      simp [Segment.keys, Json.get?_cons]

/-- A walk changes the members that it ends at, and rebuilds what is around them. -/
theorem walk_of_focus (ends : focus containers members = some found) :
    walk reference change containers members =
      (found.rebuild (change found.inner).1, (change found.inner).2) := by
  induction containers generalizing members found with
  | nil =>
    cases ends
    rfl
  | cons segment rest ih =>
    obtain ⟨step, leads, ends⟩ := Option.bind_eq_some_iff.1 ends
    obtain ⟨deeper, inside, rfl⟩ := Option.map_eq_some_iff.1 ends
    rw [walk_cons, leads]
    simp only [ih inside, Function.comp_apply]

/-- A walk that succeeds ends somewhere. -/
theorem exists_focus_of_walk {result : α}
    (ok : (walk reference change containers members).2 = .ok result) :
    ∃ found, focus containers members = some found := by
  induction containers generalizing members with
  | nil => exact ⟨_, rfl⟩
  | cons segment rest ih =>
    rw [walk_cons] at ok
    cases leads : enter segment members with
    | none =>
      rw [leads] at ok
      cases ok
    | some step =>
      rw [leads] at ok
      obtain ⟨deeper, inside⟩ := ih ok
      exact ⟨_, Option.bind_eq_some_iff.2 ⟨step, leads, Option.map_eq_some_iff.2
        ⟨deeper, inside, rfl⟩⟩⟩

/-- Where a walk ends, it ends again with other members in their place. -/
theorem focus_rebuild (ends : focus containers members = some found) (inner : Entries Json) :
    focus containers (found.rebuild inner) = some ⟨inner, found.rebuild⟩ := by
  induction containers generalizing members found with
  | nil =>
    cases ends
    rfl
  | cons segment rest ih =>
    obtain ⟨step, leads, ends⟩ := Option.bind_eq_some_iff.1 ends
    obtain ⟨deeper, inside, rfl⟩ := Option.map_eq_some_iff.1 ends
    change (enter segment (step.rebuild (deeper.rebuild inner))).bind _ = _
    rw [enter_rebuild leads, Option.bind_some, ih inside, Option.map_some]

/-- The members that a walk ends at stand where its containers lead. -/
theorem get?_rebuild (ends : focus containers members = some found) (inner : Entries Json) :
    (Json.obj (found.rebuild inner)).get? (containers.flatMap Segment.keys) =
      some (.obj inner) := by
  induction containers generalizing members found with
  | nil =>
    cases ends
    rfl
  | cons segment rest ih =>
    obtain ⟨step, leads, ends⟩ := Option.bind_eq_some_iff.1 ends
    obtain ⟨deeper, inside, rfl⟩ := Option.map_eq_some_iff.1 ends
    rw [List.flatMap_cons, Json.get?_append]
    change ((Json.obj (step.rebuild (deeper.rebuild inner))).get? segment.keys).bind _ = _
    rw [get?_enter leads, Option.bind_some, ih inside]

/-! ### What is found at the end -/

/-- The repeating structure of a kind in a slot; none where the slot holds a structure of the other
kind. -/
def repeated? : RepeatKind → Json → Option Repeated
  | .group, .obj entries => some (.entries entries)
  | .list, .arr rows => some (.rows rows)
  | .group, .arr _ | .list, .obj _ => none
  | kind, _ => some (.empty kind)

/-- To find a structure is to write an empty one, and it is found again as it is. -/
theorem overwrite_empty {kind : RepeatKind} {slot : Json} {held : Repeated}
    (finds : repeated? kind slot = some held) :
    overwrite (Repeated.empty kind).toJson slot = held.toJson := by
  cases kind <;> cases slot <;> cases finds <;> try rfl
  next entries => cases entries <;> rfl

/-- What is found is of the kind that is looked for. -/
theorem kind_of_repeated? {kind : RepeatKind} {slot : Json} {held : Repeated}
    (finds : repeated? kind slot = some held) : held.kind = kind := by
  cases kind <;> cases slot <;> cases finds <;> rfl

/-- A structure is found as it is, if its kind is looked for. -/
theorem repeated?_kind (held : Repeated) : repeated? held.kind held.toJson = some held := by
  cases held <;> rfl

theorem editRepeated_eq (reference name : String) (kind : RepeatKind)
    (edit : Repeated → Repeated × α) (members : Entries Json) :
    editRepeated reference name kind edit members =
      match repeated? kind ((Entries.get? name members).getD .null) with
      | none => (members, .error (.shapeConflict reference name))
      | some held => (Entries.set name (edit held).1.toJson members, .ok (edit held).2) := by
  unfold editRepeated
  generalize (Entries.get? name members).getD .null = slot
  cases kind <;> cases slot <;> rfl

/-- A write of a value where a walk ends. -/
theorem put_of_focus {old : Json} (ends : focus containers old.members = some found) (name : String)
    (value : Json) :
    (Path.mk containers (.page name)).put value old =
      some (.obj (found.rebuild (Entries.set name
        (overwrite value ((Entries.get? name found.inner).getD .null)) found.inner))) := by
  rw [Path.put, Path.strides, put_strides "" _ _ _ _ _ (by simp), walk_of_focus ends]
  rfl

end Document

/-! ### Changes of a repeating structure -/

namespace Addressing

open Document

variable {α : Type} {addressing : Addressing} {reference : String} {kind : RepeatKind}
  {change : Repeated → Repeated × α} {document next : Json} {result : α}

/-- A change of a repeating structure succeeds where a walk ends at a slot for one, and stores what
has become of it there. -/
theorem edit_eq_ok_iff :
    addressing.edit reference kind change document = (next, .ok result) ↔
      ∃ containers name found held,
        addressing.parse reference = .ok ⟨containers, .page name⟩ ∧
        focus containers document.members = some found ∧
        repeated? kind ((Entries.get? name found.inner).getD .null) = some held ∧
        .obj (found.rebuild (Entries.set name (change held).1.toJson found.inner)) = next ∧
        (change held).2 = result := by
  unfold edit
  constructor
  · intro edited
    split at edited
    · cases edited
    · next containers name parsed =>
      obtain ⟨rfl, ok⟩ := Prod.mk.inj edited
      obtain ⟨found, ends⟩ := exists_focus_of_walk ok
      rw [walk_of_focus ends, editRepeated_eq] at ok ⊢
      cases finds : repeated? kind ((Entries.get? name found.inner).getD .null) with
      | none =>
        rw [finds] at ok
        cases ok
      | some held =>
        rw [finds] at ok
        cases ok
        exact ⟨containers, name, found, held, parsed, ends, finds, rfl, rfl⟩
    · cases edited
  · rintro ⟨containers, name, found, held, parsed, ends, finds, rfl, rfl⟩
    rw [parsed]
    simp only [walk_of_focus ends, editRepeated_eq, finds]

/-- A structure that was located is there for every change, and to locate it first makes no
difference. -/
theorem edit_of_locate {held : Repeated}
    (located : addressing.locate reference kind document = (next, .ok held))
    (change : Repeated → Repeated × α) :
    ∃ edited, addressing.edit reference kind change document = (edited, .ok (change held).2) ∧
      addressing.edit reference kind change next = (edited, .ok (change held).2) := by
  obtain ⟨containers, name, found, there, parsed, ends, finds, rfl, rfl⟩ :=
    edit_eq_ok_iff.1 located
  refine ⟨_, edit_eq_ok_iff.2 ⟨containers, name, found, there, parsed, ends, finds, rfl, rfl⟩,
    edit_eq_ok_iff.2 ⟨containers, name, _, there, parsed, focus_rebuild ends _, ?_, ?_, rfl⟩⟩
  · cases kind_of_repeated? finds
    rw [Entries.get?_set_self]
    exact repeated?_kind there
  · rw [Entries.set_set]

section Reach

variable {path : Path}
  (edited : addressing.edit reference kind change document = (next, .ok result))
  (parsed : addressing.parse reference = .ok path)

include edited parsed

/-- A structure that is changed stands in a member of some object. -/
theorem exists_address_eq : ∃ list name, path.address = list ++ [.member name] := by
  obtain ⟨containers, name, -, -, same, -⟩ := edit_eq_ok_iff.1 edited
  rw [parsed] at same
  cases same
  exact ⟨_, name, Path.address_eq _⟩

/-- What becomes of a structure stands at its address. -/
theorem get?_edit_self :
    ∃ located held, addressing.locate reference kind document = (located, .ok held) ∧
      result = (change held).2 ∧ next.get? path.address = some (change held).1.toJson := by
  obtain ⟨containers, name, found, held, same, ends, finds, rfl, rfl⟩ := edit_eq_ok_iff.1 edited
  rw [parsed] at same
  cases same
  refine ⟨_, held,
    edit_eq_ok_iff.2 ⟨containers, name, found, held, parsed, ends, finds, rfl, rfl⟩, rfl, ?_⟩
  rw [Path.address_eq, Json.get?_append, get?_rebuild ends, Option.bind_some, Segment.keys,
    Json.get?_cons, Json.child?_obj_member, Entries.get?_set_self, Option.bind_some, Json.get?_nil]

/-- Locating a structure and changing it are writes along one path into one document, and locating
it is a write into the document itself. -/
theorem exists_put_of_edit :
    ∃ value held cleared located, path.put value cleared = some next ∧
      path.put held cleared = some located ∧
      path.put (Repeated.empty kind).toJson document = some located := by
  obtain ⟨containers, name, found, held, same, ends, finds, rfl, rfl⟩ := edit_eq_ok_iff.1 edited
  rw [parsed] at same
  cases same
  have free (value : Json) : (Path.mk containers (.page name)).put value
      (.obj (found.rebuild (Entries.set name .null found.inner))) =
        some (.obj (found.rebuild (Entries.set name value found.inner))) := by
    rw [put_of_focus (focus_rebuild ends _) name value, Entries.get?_set_self, Entries.set_set]
    rfl
  refine ⟨_, _, _, _, free _, free held.toJson, ?_⟩
  rw [put_of_focus ends, overwrite_empty finds]

/-- Apart from its address a change of a structure leaves what it finds and fills up lists. -/
theorem get?_edit_of_apart {address : Address} (before : ¬ address <+: path.address)
    (below : ¬ path.address <+: address) (keeps : ¬ path.Loses address) :
    next.get? address = (document.get? address).or (path.address.fills address) := by
  obtain ⟨value, held, cleared, located, changes, holds, locates⟩ :=
    exists_put_of_edit edited parsed
  rw [Path.get?_put_of_apart changes before below keeps,
    ← Path.get?_put_of_apart holds before below keeps,
    Path.get?_put_of_apart locates before below keeps]

/-- What stands in another member stays as it is. -/
theorem get?_edit_of_member {list : Address} {name : String}
    (before : ¬ list ++ [.member name] <+: path.address)
    (below : ¬ path.address <+: list ++ [.member name])
    (keeps : ¬ path.Loses (list ++ [.member name])) :
    next.get? (list ++ [.member name]) = document.get? (list ++ [.member name]) := by
  rw [get?_edit_of_apart edited parsed before below keeps, Address.fills_concat_member,
    Option.or_none]

/-- Where the way to a structure needs an object, there is no list any more. -/
theorem get?_edit_of_loses {address : Address} (loses : path.Loses address) :
    next.get? address = none := by
  obtain ⟨value, held, cleared, located, changes, -, -⟩ := exists_put_of_edit edited parsed
  exact Path.get?_put_of_loses changes loses

end Reach

end Addressing

end CaseForm

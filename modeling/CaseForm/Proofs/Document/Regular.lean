import CaseForm.Proofs.Document.RoundTrip
import Mathlib.Logic.ExistsUnique

/-!
Nesting undoes flattening.

A document whose keys can stand in references, and that has no empty containers and no lists of
lists (`Json.Regular`), is nested again from what it flattens to, one entry a scalar
(`nest_flatten`). For this the row of a list must not be written like the marker of the root page,
which is left out wherever it stands as a container (`nest_flatten_marked_row`).

* `Drawn.of_scalars`: the scalars of a document without empty containers draw it, so nesting them
  gives nothing else;
* `Json.exists_path_of_scalar`: every scalar of a regular document has a reference that is read
  back.
-/

namespace CaseForm

/-! ### The document of its scalars -/

section OfScalars

variable {writes : List (Path × Json)} {document : Json}
  (held : ∀ write ∈ writes, document.get? write.1.address = some write.2)

include held

/-- On the way to a value stands what holds it. -/
theorem exists_holder {write : Path × Json} (written : write ∈ writes) {place rest : Address}
    (split : write.1.address = place ++ rest) :
    ∃ found, document.get? place = some found ∧ found.get? rest = some write.2 := by
  have there := held write written
  rwa [split, Json.get?_append, Option.bind_eq_some_iff] at there

/-- Where a path of a value goes into a member, the document has an object that is not empty. -/
theorem exists_object_of_opened {place : Address} (opened : Opened (writes.map (·.1)) place) :
    ∃ found, document.get? place = some found ∧ found.outline = .obj [] ∧
      Document.occupied found = true := by
  obtain ⟨path, mem, name, rest, split⟩ := opened
  obtain ⟨write, written, rfl⟩ := List.mem_map.1 mem
  obtain ⟨found, here, inside⟩ := exists_holder held written split
  exact ⟨found, here, Json.outline_of_get?_member inside, Path.occupied_of_get? inside⟩

/-- Where a path of a value goes into an item, the document has an array. -/
theorem exists_array_of_listed {place : Address} (listed : Listed (writes.map (·.1)) place) :
    ∃ found, document.get? place = some found ∧ found.outline = .arr [] := by
  obtain ⟨path, mem, index, rest, split⟩ := listed
  obtain ⟨write, written, rfl⟩ := List.mem_map.1 mem
  obtain ⟨found, here, inside⟩ := exists_holder held written split
  exact ⟨found, here, Json.outline_of_get?_item inside⟩

theorem not_listed_of_opened {place : Address} (opened : Opened (writes.map (·.1)) place) :
    ¬ Listed (writes.map (·.1)) place := by
  intro listed
  obtain ⟨found, there, object, -⟩ := exists_object_of_opened held opened
  obtain ⟨other, here, array⟩ := exists_array_of_listed held listed
  rw [there] at here
  cases here
  rw [object] at array
  cases array

/-- The paths to the values of one document do not obstruct each other. -/
theorem not_obstructed_of_held : ¬ Obstructed (writes.map (·.1)) := by
  rintro ⟨before, path, after, eq, place, ⟨lists, other, mem, opens⟩ |
    ⟨opens, -, ⟨other, mem, lists⟩, -⟩⟩
  · refine not_listed_of_opened held ⟨other, ?_, opens⟩ ⟨path, ?_, lists⟩ <;> simp [eq, mem]
  · refine not_listed_of_opened held ⟨path, ?_, opens⟩ ⟨other, ?_, lists⟩ <;> simp [eq, mem]

/-- A document is drawn by its scalars if it has one below every place but the root. -/
theorem Drawn.of_scalars (object : document.outline = .obj [])
    (scalar : ∀ write ∈ writes, write.2.isScalar = true)
    (all : ∀ address leaf, document.get? address = some leaf → leaf.isScalar = true →
      ∃ write ∈ writes, write.1.address = address)
    (filled : ∀ address found, address ≠ [] → document.get? address = some found →
      ∃ below leaf, found.get? below = some leaf ∧ leaf.isScalar = true) :
    Drawn writes document := by
  have no_gap {address : Address} {found : Json} (later : address ≠ [])
      (there : document.get? address = some found) : ¬ Gap (writes.map (·.1)) address := by
    intro gap
    obtain ⟨below, leaf, inside, scalar⟩ := filled address found later there
    obtain ⟨write, mem, eq⟩ := all (address ++ below) leaf
      (by rw [Json.get?_append, there, Option.bind_some, inside]) scalar
    exact gap.1 write.1 (List.mem_map_of_mem mem) (eq ▸ List.prefix_append _ _)
  constructor
  case root => exact object
  case scalar => exact scalar
  case lost =>
    intro address lost
    obtain ⟨place, index, rest, opened, rfl⟩ := lost_iff.1 lost
    obtain ⟨found, there, object, -⟩ := exists_object_of_opened held opened
    rw [Json.get?_append, there, Option.bind_some]
    cases found <;> first | rfl | cases object
  case opened => exact fun _ _ opened => exists_object_of_opened held opened
  case listed => exact fun _ _ _ listed => exists_array_of_listed held listed
  case held => exact fun write mem _ _ _ => held write mem
  case filled =>
    intro address later gap
    have absent : document.get? address = none := by
      rw [Option.eq_none_iff_forall_ne_some]
      exact fun found there => no_gap later there gap
    rw [absent, eq_comm, filling, List.findSome?_eq_none_iff]
    intro path mem
    rw [Option.eq_none_iff_forall_ne_some]
    intro filler fills
    -- A list has the items before one that it has.
    obtain ⟨list, index, position, rest, split, rfl, lower, -⟩ := Address.eq_of_fills fills
    obtain ⟨write, written, rfl⟩ := List.mem_map.1 mem
    obtain ⟨found, here, inside⟩ := exists_holder held written split
    rw [Json.get?_append, here, Option.bind_some] at absent
    cases found with
    | arr items =>
      obtain ⟨item, at_index, -⟩ := Option.bind_eq_some_iff.1 inside
      obtain ⟨bound, -⟩ := List.getElem?_eq_some_iff.1 at_index
      have short : items[position]? = none := by simpa [Json.get?_cons] using absent
      rw [List.getElem?_eq_none_iff] at short
      omega
    | _ => cases inside

end OfScalars

/-- The values of a document under different addresses are nested to it, if they draw it. -/
theorem Document.putAll_of_drawn {writes : List (Path × Json)} {document : Json}
    (drawn : Drawn writes document) (ordered : document.Ordered) (apart : Apart writes)
    (free : ¬ Obstructed (writes.map (·.1))) : putAll writes (.obj []) = some document := by
  cases put : putAll writes (.obj []) with
  | none => exact absurd ((putAll_eq_none_iff drawn.scalar apart).1 put) free
  | some other =>
    have also := drawn_of_putAll put drawn.scalar apart
    have sorted := ordered_putAll put
      (fun write mem => ordered_of_isScalar (drawn.scalar write mem)) ⟨Entries.sorted_nil, trivial⟩
    rw [drawn.eq also ordered sorted]

/-! ### Nesting what was flattened -/

/-- The text can be a key of a document that references lead through: it has none of the characters
that part a reference, and is no marker of the root page. -/
def Addressing.Names (addressing : Addressing) (name : String) : Prop :=
  name ≠ "" ∧ '.' ∉ name.toList ∧ '(' ∉ name.toList ∧ ')' ∉ name.toList ∧
    name ≠ addressing.rootPage

instance (addressing : Addressing) (name : String) : Decidable (addressing.Names name) :=
  inferInstanceAs (Decidable (_ ∧ _))

namespace Json

variable (addressing : Addressing)

mutual

/-- The value has no empty containers, no lists of lists, keys that can stand in references, and no
list that goes beyond the highest position or beyond what a position of 64 bits can count. -/
def Regular : Json → Prop
  | .arr items =>
    items ≠ [] ∧ items.length ≤ addressing.maxListIndex ∧ items.length ≤ 0x7fffffffffffffff ∧
      RegularItems items
  | .obj members => members ≠ [] ∧ RegularMembers members
  | _ => True

/-- Every item is regular and no list. -/
def RegularItems : List Json → Prop
  | [] => True
  | item :: items => item.outline ≠ .arr [] ∧ item.Regular ∧ RegularItems items

/-- Every member has a key that can stand in references, and is regular. -/
def RegularMembers : List (String × Json) → Prop
  | [] => True
  | (name, value) :: members => addressing.Names name ∧ value.Regular ∧ RegularMembers members

end

/-- No row of a list that is an object is written like the marker of the root page. -/
def Unmarked (value : Json) : Prop :=
  ∀ place name index members,
    value.get? (place ++ [.member name, .item index]) = some (.obj members) →
    (Segment.listItem name index).text ≠ addressing.rootPage

variable {addressing}

theorem regularItems_iff {items : List Json} :
    RegularItems addressing items ↔
      ∀ item ∈ items, item.outline ≠ .arr [] ∧ item.Regular addressing := by
  induction items with
  | nil => simp [RegularItems]
  | cons item items ih => simp [RegularItems, ih, and_assoc]

theorem regularMembers_iff {members : List (String × Json)} :
    RegularMembers addressing members ↔
      ∀ member ∈ members, addressing.Names member.1 ∧ member.2.Regular addressing := by
  induction members with
  | nil => simp [RegularMembers]
  | cons member members ih => simp [RegularMembers, ih, and_assoc]

/-- A regular value has a scalar in it. -/
theorem Regular.exists_scalar {value : Json} (regular : value.Regular addressing) :
    ∃ address leaf, value.get? address = some leaf ∧ leaf.isScalar = true := by
  match value with
  | .null | .bool _ | .num _ | .str _ => exact ⟨[], _, rfl, rfl⟩
  | .arr [] => exact absurd rfl regular.1
  | .obj [] => exact absurd rfl regular.1
  | .arr (item :: items) =>
    have here : (Json.arr (item :: items)).child? (.item 0) = some item := rfl
    have inner := (regularItems_iff.1 regular.2.2.2 item List.mem_cons_self).2
    obtain ⟨rest, leaf, there, scalar⟩ := inner.exists_scalar
    exact ⟨.item 0 :: rest, leaf, by rw [get?_cons, here, Option.bind_some, there], scalar⟩
  | .obj (member :: members) =>
    have here : (Json.obj (member :: members)).child? (.member member.1) = some member.2 := by
      rw [child?_obj_member, Entries.get?_cons, if_pos rfl]
    have inner := (regularMembers_iff.1 regular.2 member List.mem_cons_self).2
    obtain ⟨rest, leaf, there, scalar⟩ := inner.exists_scalar
    refine ⟨.member member.1 :: rest, leaf, ?_, scalar⟩
    rw [get?_cons, here, Option.bind_some, there]
termination_by sizeOf value
decreasing_by
  · exact sizeOf_lt_of_child? here
  · exact sizeOf_lt_of_child? here

/-- What lies in a regular value is regular. -/
theorem Regular.child? {value child : Json} {key : Key} (regular : value.Regular addressing)
    (there : value.child? key = some child) : child.Regular addressing := by
  cases value with
  | arr items =>
    cases key with
    | member name => cases there
    | item index => exact (regularItems_iff.1 regular.2.2.2 _ (List.mem_of_getElem? there)).2
  | obj members =>
    cases key with
    | member name => exact (regularMembers_iff.1 regular.2 _ (Entries.mem_of_get? there)).2
    | item index => cases there
  | _ => cases key <;> cases there

theorem Regular.get? {value found : Json} {address : Address} (regular : value.Regular addressing)
    (there : value.get? address = some found) : found.Regular addressing := by
  induction address generalizing value with
  | nil =>
    cases there
    exact regular
  | cons key rest ih =>
    obtain ⟨child, here, inside⟩ := Option.bind_eq_some_iff.1 there
    exact ih (regular.child? here) inside

/-- Below the root of a regular document everything is regular. -/
theorem regular_get? {members : Entries Json} (regular : RegularMembers addressing members)
    {address : Address} {found : Json} (later : address ≠ [])
    (there : (Json.obj members).get? address = some found) : found.Regular addressing := by
  cases address with
  | nil => exact absurd rfl later
  | cons key rest =>
    obtain ⟨child, here, inside⟩ := Option.bind_eq_some_iff.1 there
    cases key with
    | item index => cases here
    | member name =>
      exact (regularMembers_iff.1 regular _ (Entries.mem_of_get? here)).2.get? inside

theorem Unmarked.get? {value found : Json} {address : Address}
    (unmarked : value.Unmarked addressing) (there : value.get? address = some found) :
    found.Unmarked addressing := by
  intro place name index members here
  refine unmarked (address ++ place) name index members ?_
  rw [List.append_assoc, get?_append, there, Option.bind_some, here]

end Json

/-! ### References to the scalars of a regular document -/

/-- The segment is read back from its written form, and is the item of a list or a page. -/
structure Segment.Plain (addressing : Addressing) (segment : Segment) : Prop where
  legible : segment.Legible
  dotless : '.' ∉ segment.text.toList
  keyless : segment.isKeyed = false
  within : addressing.exceeds segment = false

/-- The path is read back from its written form, and leads through pages and items of lists. -/
structure Path.Plain (addressing : Addressing) (path : Path) : Prop where
  segments : ∀ segment ∈ path.segments, segment.Plain addressing
  unmarked : ∀ segment ∈ path.containers, segment.text ≠ addressing.rootPage

section Plain

variable {addressing : Addressing}

theorem Segment.plain_page {name : String} (named : addressing.Names name) :
    (Segment.page name).Plain addressing :=
  ⟨⟨named.1, named.2.2.1, named.2.2.2.1⟩, named.2.1, rfl, rfl⟩

theorem Segment.plain_listItem {name : String} {index : Nat} (named : addressing.Names name)
    (within : index < addressing.maxListIndex) (counted : index < 0x7fffffffffffffff) :
    (Segment.listItem name index).Plain addressing := by
  refine ⟨⟨named.1, named.2.2.1, counted⟩, ?_, rfl, ?_⟩
  · rw [Segment.toList_text_listItem]
    simp [named.2.1, not_mem_toDigits]
  · simpa [Addressing.exceeds] using within

/-- The path of one plain segment. -/
theorem Path.plain_leaf {segment : Segment} (plain : segment.Plain addressing) :
    (Path.mk [] segment).Plain addressing := by
  refine ⟨?_, by simp⟩
  intro other mem
  cases List.mem_singleton.1 mem
  exact plain

/-- A path goes on behind one more container. -/
theorem Path.plain_cons {segment : Segment} {path : Path} (plain : segment.Plain addressing)
    (unmarked : segment.text ≠ addressing.rootPage) (rest : path.Plain addressing) :
    (Path.mk (segment :: path.containers) path.leaf).Plain addressing := by
  constructor
  · intro other mem
    rcases List.mem_cons.1 mem with rfl | mem
    · exact plain
    · exact rest.segments other mem
  · intro other mem
    rcases List.mem_cons.1 mem with rfl | mem
    · exact unmarked
    · exact rest.unmarked other mem

namespace Path.Plain

variable {path : Path} (plain : path.Plain addressing)

include plain

theorem legible : path.Legible :=
  fun segment mem => ⟨(plain.segments segment mem).legible, (plain.segments segment mem).dotless⟩

theorem keyless : path.Keyless := fun segment mem => (plain.segments segment mem).keyless

theorem parse_text : addressing.parse path.text = .ok path :=
  Addressing.parse_text plain.legible plain.unmarked
    fun segment mem => (plain.segments segment mem).within

end Path.Plain

end Plain

namespace Json

variable {addressing : Addressing}

/-- Every scalar of a regular document has a reference that is read back. -/
theorem exists_path_of_scalar {members : Entries Json} (regular : RegularMembers addressing members)
    (unmarked : (Json.obj members).Unmarked addressing) {address : Address} {leaf : Json}
    (there : (Json.obj members).get? address = some leaf) (scalar : leaf.isScalar = true) :
    ∃ path : Path, path.Plain addressing ∧ path.address = address := by
  match address with
  | [] =>
    cases there
    cases scalar
  | .item index :: rest => cases there
  | .member name :: rest =>
    obtain ⟨child, here, inside⟩ := Option.bind_eq_some_iff.1 there
    obtain ⟨named, fine⟩ := regularMembers_iff.1 regular _ (Entries.mem_of_get? here)
    have below : (Json.obj members).get? [.member name] = some child := by
      rw [get?_cons, here, Option.bind_some, get?_nil]
    cases child with
    | obj inner =>
      obtain ⟨path, plain, rfl⟩ :=
        exists_path_of_scalar fine.2 (unmarked.get? below) inside scalar
      exact ⟨_, Path.plain_cons (Segment.plain_page named) named.2.2.2.2 plain, rfl⟩
    | arr items =>
      match rest with
      | [] =>
        cases inside
        cases scalar
      | .member other :: rest => cases inside
      | .item index :: rest =>
        obtain ⟨item, at_index, deeper⟩ := Option.bind_eq_some_iff.1 inside
        obtain ⟨bound, -⟩ := List.getElem?_eq_some_iff.1 at_index
        obtain ⟨-, within, counted, rows⟩ := fine
        obtain ⟨flat, fine⟩ := regularItems_iff.1 rows item (List.mem_of_getElem? at_index)
        have plain : (Segment.listItem name index).Plain addressing :=
          Segment.plain_listItem named (by omega) (by omega)
        have row : (Json.obj members).get? [.member name, .item index] = some item := by
          rw [get?_cons, here, Option.bind_some, get?_cons, at_index, Option.bind_some, get?_nil]
        cases item with
        | arr inner => exact absurd rfl flat
        | obj inner =>
          obtain ⟨path, rest, rfl⟩ :=
            exists_path_of_scalar fine.2 (unmarked.get? row) deeper scalar
          exact ⟨_, Path.plain_cons plain (unmarked [] name index inner row) rest, rfl⟩
        | _ =>
          cases rest with
          | nil => exact ⟨_, Path.plain_leaf plain, rfl⟩
          | cons key rest => cases key <;> cases deeper
    | _ =>
      cases rest with
      | nil => exact ⟨_, Path.plain_leaf (Segment.plain_page named), rfl⟩
      | cons key rest => cases key <;> cases inside
termination_by address.length

/-- A regular document is flattened to its scalars, each under the reference to it. -/
theorem get?_flatten_of_regular {members : Entries Json} (ordered : (Json.obj members).Ordered)
    (regular : RegularMembers addressing members)
    (unmarked : (Json.obj members).Unmarked addressing) {key : String} {value : Json} :
    (Json.obj members).flatten.get? key = some value ↔
      value.isScalar = true ∧ ∃ path, addressing.parse key = .ok path ∧ path.Keyless ∧
        path.text = key ∧ (Json.obj members).get? path.address = some value := by
  have referable : (Json.obj members).Referable := by
    intro address leaf there scalar
    obtain ⟨path, plain, eq⟩ := exists_path_of_scalar regular unmarked there scalar
    exact ⟨path, plain.legible, plain.keyless, eq⟩
  rw [get?_flatten_eq_some_iff rfl ordered referable]
  constructor
  · rintro ⟨scalar, other, -, keyless, rfl, there⟩
    obtain ⟨path, plain, same⟩ := exists_path_of_scalar regular unmarked there scalar
    have written := Path.text_eq_of_address_eq plain.keyless keyless same
    exact ⟨scalar, path, written ▸ plain.parse_text, plain.keyless, written, same ▸ there⟩
  · rintro ⟨scalar, path, read, keyless, rfl, there⟩
    exact ⟨scalar, path, Addressing.legible_of_parse read, keyless, rfl, there⟩

end Json

section NestFlatten

variable {addressing : Addressing} {members : Entries Json} (ordered : (Json.obj members).Ordered)
  (regular : Json.RegularMembers addressing members)
  (unmarked : (Json.obj members).Unmarked addressing)

include ordered regular unmarked

/-- What is written from a flattened regular document is the scalar at the address. -/
theorem held_of_mem_writes_flatten :
    ∀ write ∈ addressing.writes (Json.obj members).flatten.entries,
      write.2.isScalar = true ∧ (Json.obj members).get? write.1.address = some write.2 := by
  rintro ⟨path, value⟩ mem
  obtain ⟨reference, entry, read⟩ := Addressing.mem_writes_iff.1 mem
  rw [Table.mem_entries_iff, Json.get?_flatten_of_regular ordered regular unmarked] at entry
  obtain ⟨scalar, other, also, -, -, there⟩ := entry
  rw [read] at also
  cases also
  exact ⟨scalar, there⟩

/-- Every scalar of a regular document is written from what it flattens to. -/
theorem exists_write_of_scalar {address : Address} {leaf : Json}
    (there : (Json.obj members).get? address = some leaf) (scalar : leaf.isScalar = true) :
    ∃ path, (path, leaf) ∈ addressing.writes (Json.obj members).flatten.entries ∧
      path.address = address := by
  obtain ⟨path, plain, rfl⟩ := Json.exists_path_of_scalar regular unmarked there scalar
  refine ⟨path, Addressing.mem_writes_iff.2 ⟨path.text, ?_, plain.parse_text⟩, rfl⟩
  rw [Table.mem_entries_iff, Json.get?_flatten_of_regular ordered regular unmarked]
  exact ⟨scalar, path, plain.parse_text, plain.keyless, rfl, there⟩

theorem faithful_flatten : addressing.Faithful (Json.obj members).flatten.entries := by
  rintro ⟨key, value⟩ mem
  rw [Table.mem_entries_iff, Json.get?_flatten_of_regular ordered regular unmarked] at mem
  obtain ⟨-, path, read, keyless, written, -⟩ := mem
  exact ⟨path, read, keyless, written⟩

/-- A regular document is nested again from what it flattens to. -/
theorem nest_flatten_eq_ok :
    addressing.nest (Json.obj members).flatten = .ok (.obj members) := by
  have faithful := faithful_flatten ordered regular unmarked
  have values := held_of_mem_writes_flatten ordered regular unmarked
  have held := fun write mem => (values write mem).2
  refine Addressing.writeAll_eq_ok_iff.2 ⟨faithful.readable, ?_⟩
  apply Document.putAll_of_drawn ?_ ordered (faithful.apart (Table.sorted _))
    (not_obstructed_of_held held)
  refine Drawn.of_scalars held rfl (fun write mem => (values write mem).1) ?_ ?_
  · intro address leaf there scalar
    obtain ⟨path, mem, eq⟩ := exists_write_of_scalar ordered regular unmarked there scalar
    exact ⟨(path, leaf), mem, eq⟩
  · intro address found later there
    exact (Json.regular_get? regular later there).exists_scalar

end NestFlatten

/-- A document that is regular, and of which no row is written like the marker of the root page, is
nested again from what it flattens to. Every entry of the flattened document is the scalar that its
reference leads to, and every scalar has exactly one entry. -/
theorem nest_flatten (addressing : Addressing) (members : Entries Json)
    (ordered : (Json.obj members).Ordered) (regular : Json.RegularMembers addressing members)
    (unmarked : (Json.obj members).Unmarked addressing) :
    addressing.nest (Json.obj members).flatten = .ok (.obj members) ∧
    (∀ key value, (Json.obj members).flatten.get? key = some value →
      value.isScalar = true ∧ ∃ path, addressing.parse key = .ok path ∧
        (Json.obj members).get? path.address = some value) ∧
    ∀ address leaf, (Json.obj members).get? address = some leaf → leaf.isScalar = true →
      ∃! key, (Json.obj members).flatten.get? key = some leaf ∧
        ∃ path, addressing.parse key = .ok path ∧ path.address = address := by
  refine ⟨nest_flatten_eq_ok ordered regular unmarked, ?_, ?_⟩
  · intro key value flat
    rw [Json.get?_flatten_of_regular ordered regular unmarked] at flat
    obtain ⟨scalar, path, read, -, -, there⟩ := flat
    exact ⟨scalar, path, read, there⟩
  · intro address leaf there scalar
    obtain ⟨path, plain, rfl⟩ := Json.exists_path_of_scalar regular unmarked there scalar
    refine ⟨path.text, ⟨?_, path, plain.parse_text, rfl⟩, ?_⟩
    · rw [Json.get?_flatten_of_regular ordered regular unmarked]
      exact ⟨scalar, path, plain.parse_text, plain.keyless, rfl, there⟩
    · rintro key ⟨flat, other, read, same⟩
      rw [Json.get?_flatten_of_regular ordered regular unmarked] at flat
      obtain ⟨-, again, also, keyless, rfl, -⟩ := flat
      rw [read] at also
      cases also
      exact Path.text_eq_of_address_eq keyless plain.keyless same

/-- A marker that does not end like a row is written like none. -/
theorem Json.unmarked_of_getLast? {addressing : Addressing}
    (open_ : addressing.rootPage.toList.getLast? ≠ some ')') (value : Json) :
    value.Unmarked addressing := by
  intro place name index members _ marked
  rw [← marked, Segment.toList_text_listItem, ← List.cons_append, ← List.append_assoc,
    List.getLast?_concat] at open_
  exact open_ rfl

/-- A list of a row and a value is found again. -/
theorem nest_flatten_rows :
    Addressing.standard.nest
        (Json.obj [("L", .arr [.obj [("A", .str "x")], .str "y"])]).flatten =
      .ok (.obj [("L", .arr [.obj [("A", .str "x")], .str "y"])]) := by
  refine (nest_flatten Addressing.standard _ ?_ ?_ ?_).1
  · simp [Json.Ordered, Json.OrderedMembers, Json.OrderedItems, Entries.Sorted]
  · have list : Addressing.standard.Names "L" := by decide
    have page : Addressing.standard.Names "A" := by decide
    have highest : 2 ≤ Addressing.standard.maxListIndex := by decide
    simp [Json.RegularMembers, Json.Regular, Json.RegularItems, Json.outline, list, page, highest]
  · exact Json.unmarked_of_getLast? (by decide) _

/-- A row that is written like the marker of the root page is left out of the references that lead
through it. -/
theorem nest_flatten_marked_row :
    Json.RegularMembers ⟨"L(1)", 10⟩ [("L", .arr [.obj [("A", .str "x")]])] ∧
    (Json.obj [("L", .arr [.obj [("A", .str "x")]])]).Ordered ∧
    Addressing.nest ⟨"L(1)", 10⟩ (Json.obj [("L", .arr [.obj [("A", .str "x")]])]).flatten =
      .ok (.obj [("A", .str "x")]) := by
  refine ⟨?_, ?_, rfl⟩
  · simp [Json.RegularMembers, Json.Regular, Json.RegularItems, Addressing.Names, Json.outline]
  · simp [Json.Ordered, Json.OrderedMembers, Json.OrderedItems, Entries.Sorted]

end CaseForm

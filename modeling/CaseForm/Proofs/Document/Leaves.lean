import CaseForm.Document.Flatten
import CaseForm.Proofs.Document.Effect
import CaseForm.Proofs.Reference.Legible

/-!
The scalars of a document and the references that flattening gives them.

Flattening writes an address down level by level: a member behind a dot, an item as a position in
parentheses (`Address.text`). What is flattened from a document in key order are its scalars, each
under the written form of its address (`Json.mem_rootLeaves_iff`). The addresses of paths without
keys are written as the paths are (`Path.text_address`). So where all scalars stand at the addresses
of such paths, the flattened table has exactly one entry for each
(`Json.get?_flatten_eq_some_iff`).
-/

namespace CaseForm

/-- How a level of nesting is written: a member behind a dot, and positions from one. -/
def Key.text : Key → String
  | .member name => "." ++ name
  | .item index => "(" ++ toString (index + 1) ++ ")"

/-- The written form of an address, level by level. -/
def Address.text : Address → String
  | [] => ""
  | key :: rest => key.text ++ Address.text rest

theorem Address.text_append (address rest : Address) :
    Address.text (address ++ rest) = Address.text address ++ Address.text rest := by
  induction address with
  | nil => simp [Address.text]
  | cons key address ih => simp [Address.text, ih, String.append_assoc]

namespace Json

open Document (ordered_child?)

theorem memberLeaves_eq (path : String) (members : List (String × Json)) :
    memberLeaves path members =
      members.flatMap fun member => member.2.leaves (path ++ "." ++ member.1) := by
  induction members with
  | nil => rfl
  | cons member members ih => rw [memberLeaves, ih, List.flatMap_cons]

theorem rootLeaves_eq (members : List (String × Json)) :
    rootLeaves members = members.flatMap fun member => member.2.leaves member.1 := by
  induction members with
  | nil => rfl
  | cons member members ih => rw [rootLeaves, ih, List.flatMap_cons]

theorem mem_itemLeaves_iff {path : String} {position : Nat} {items : List Json}
    {entry : String × Json} :
    entry ∈ itemLeaves path position items ↔
      ∃ (index : Nat) (item : Json), items[index]? = some item ∧
        entry ∈ item.leaves (path ++ "(" ++ toString (position + index) ++ ")") := by
  induction items generalizing position with
  | nil => simp [itemLeaves]
  | cons first items ih =>
    have next (index : Nat) : position + 1 + index = position + (index + 1) := by omega
    simp only [itemLeaves, List.mem_append, ih, next]
    constructor
    · rintro (here | ⟨index, item, there, later⟩)
      · exact ⟨0, first, rfl, here⟩
      · exact ⟨index + 1, item, there, later⟩
    · rintro ⟨_ | index, item, there, found⟩
      · cases there
        exact .inl found
      · exact .inr ⟨index, item, there, found⟩

/-- The scalars of a container are those of its children. -/
theorem mem_leaves_container_iff {path : String} {value : Json} {entry : String × Json}
    (ordered : value.Ordered) (container : value.isScalar = false) :
    entry ∈ value.leaves path ↔
      ∃ key child, value.child? key = some child ∧ entry ∈ child.leaves (path ++ key.text) := by
  cases value with
  | obj members =>
    rw [leaves, memberLeaves_eq, List.mem_flatMap]
    constructor
    · rintro ⟨⟨name, child⟩, mem, inside⟩
      rw [String.append_assoc] at inside
      exact ⟨.member name, child, (Entries.get?_eq_some_iff ordered.1).2 mem, inside⟩
    · rintro ⟨name | index, child, there, inside⟩
      · refine ⟨(name, child), (Entries.get?_eq_some_iff ordered.1).1 there, ?_⟩
        rwa [String.append_assoc]
      · cases there
  | arr items =>
    rw [leaves, mem_itemLeaves_iff]
    constructor
    · rintro ⟨index, item, there, inside⟩
      rw [String.append_assoc, String.append_assoc, Nat.add_comm] at inside
      exact ⟨.item index, item, there, by simpa [Key.text, String.append_assoc] using inside⟩
    · rintro ⟨name | index, child, there, inside⟩
      · cases there
      · refine ⟨index, child, there, ?_⟩
        rw [Nat.add_comm]
        simpa [Key.text, String.append_assoc] using inside
  | _ => cases container

theorem leaves_of_isScalar {value : Json} (scalar : value.isScalar = true) (path : String) :
    value.leaves path = [(path, value)] := by
  cases value <;> first | rfl | cases scalar

theorem sizeOf_lt_of_child? {value child : Json} {key : Key} (h : value.child? key = some child) :
    sizeOf child < sizeOf value := by
  cases value with
  | obj members =>
    cases key with
    | member name =>
      have smaller := List.sizeOf_lt_of_mem (Entries.mem_of_get? h)
      simp only [Prod.mk.sizeOf_spec, Json.obj.sizeOf_spec] at smaller ⊢
      omega
    | item index => cases h
  | arr items =>
    cases key with
    | member name => cases h
    | item index =>
      have smaller := List.sizeOf_lt_of_mem (List.mem_of_getElem? h)
      simp only [Json.arr.sizeOf_spec]
      omega
  | _ => cases key <;> cases h

/-- The scalars of a value stand under the written forms of their addresses. -/
theorem mem_leaves_iff {path text : String} {value leaf : Json} (ordered : value.Ordered) :
    (text, leaf) ∈ value.leaves path ↔
      leaf.isScalar = true ∧ ∃ address, value.get? address = some leaf ∧
        text = path ++ Address.text address := by
  cases kind : value.isScalar with
  | true =>
    rw [leaves_of_isScalar kind, List.mem_singleton, Prod.mk.injEq]
    constructor
    · rintro ⟨rfl, rfl⟩
      exact ⟨kind, [], rfl, by simp [Address.text]⟩
    · rintro ⟨-, address, there, rfl⟩
      cases address with
      | nil =>
        cases there
        simp [Address.text]
      | cons key rest =>
        rw [get?_of_isScalar kind (List.cons_ne_nil key rest)] at there
        cases there
  | false =>
    rw [mem_leaves_container_iff ordered kind]
    constructor
    · rintro ⟨key, child, here, inside⟩
      obtain ⟨scalar, rest, there, rfl⟩ := (mem_leaves_iff (ordered_child? ordered here)).1 inside
      refine ⟨scalar, key :: rest, ?_, by rw [Address.text, String.append_assoc]⟩
      rw [get?_cons, here, Option.bind_some, there]
    · rintro ⟨scalar, _ | ⟨key, rest⟩, there, rfl⟩
      · cases there
        rw [kind] at scalar
        cases scalar
      · obtain ⟨child, here, inside⟩ := Option.bind_eq_some_iff.1 there
        refine ⟨key, child, here, (mem_leaves_iff (ordered_child? ordered here)).2 ?_⟩
        exact ⟨scalar, rest, inside, by rw [Address.text, String.append_assoc]⟩
termination_by sizeOf value
decreasing_by
  · exact sizeOf_lt_of_child? here
  · exact sizeOf_lt_of_child? here

/-- The scalars of a document stand under the written forms of their addresses, without the dot at
the head. -/
theorem mem_rootLeaves_iff {members : Entries Json} {text : String} {leaf : Json}
    (ordered : (Json.obj members).Ordered) :
    (text, leaf) ∈ rootLeaves members ↔
      leaf.isScalar = true ∧ ∃ address, (Json.obj members).get? address = some leaf ∧
        "." ++ text = Address.text address := by
  have inner {name : String} {child : Json}
      (here : (Json.obj members).child? (.member name) = some child) :
      (text, leaf) ∈ child.leaves name ↔ leaf.isScalar = true ∧ ∃ rest,
        child.get? rest = some leaf ∧ text = name ++ Address.text rest :=
    mem_leaves_iff (ordered_child? ordered here)
  rw [rootLeaves_eq, List.mem_flatMap]
  constructor
  · rintro ⟨⟨name, child⟩, mem, inside⟩
    have here := (Entries.get?_eq_some_iff ordered.1).2 mem
    obtain ⟨scalar, rest, there, rfl⟩ := (inner here).1 inside
    refine ⟨scalar, .member name :: rest, ?_, by simp [Address.text, Key.text, String.append_assoc]⟩
    rw [get?_cons, child?_obj_member, here, Option.bind_some, there]
  · rintro ⟨scalar, _ | ⟨name | index, rest⟩, there, written⟩
    · cases there
      cases scalar
    · obtain ⟨child, here, inside⟩ := Option.bind_eq_some_iff.1 there
      refine ⟨(name, child), (Entries.get?_eq_some_iff ordered.1).1 here, (inner here).2 ?_⟩
      refine ⟨scalar, rest, inside, ?_⟩
      rwa [Address.text, Key.text, String.append_assoc, String.append_right_inj] at written
    · cases there

end Json

/-! ### Addresses of references -/

/-- Whether the segment needs the key of a group. -/
def Segment.isKeyed : Segment → Bool
  | .groupEntry _ _ => true
  | _ => false

/-- The path leads through pages and items of lists only. -/
def Path.Keyless (path : Path) : Prop := ∀ segment ∈ path.segments, segment.isKeyed = false

theorem Segment.text_keys {segment : Segment} (keyless : segment.isKeyed = false) :
    Address.text segment.keys = "." ++ segment.text := by
  cases segment with
  | page name => simp [Segment.keys, Address.text, Key.text, Segment.text]
  | listItem name index =>
    simp [Segment.keys, Address.text, Key.text, Segment.text, String.append_assoc]
  | groupEntry name key => cases keyless

theorem Segment.text_flatMap_keys {segments : List Segment} (filled : segments ≠ [])
    (keyless : ∀ segment ∈ segments, segment.isKeyed = false) :
    Address.text (segments.flatMap Segment.keys) =
      "." ++ String.ofList (Text.join '.' (segments.map fun segment => segment.text.toList)) := by
  induction segments with
  | nil => exact absurd rfl filled
  | cons segment segments ih =>
    obtain ⟨here, keyless⟩ := List.forall_mem_cons.1 keyless
    rw [List.flatMap_cons, Address.text_append, Segment.text_keys here]
    cases segments with
    | nil => simp [Text.join, Address.text]
    | cons next segments =>
      rw [ih (List.cons_ne_nil next segments) keyless]
      simp only [List.map_cons, Text.join]
      apply String.toList_inj.1
      simp

/-- The address of a path without keys is written like the path. -/
theorem Path.text_address {path : Path} (keyless : path.Keyless) :
    Address.text path.address = "." ++ path.text :=
  Segment.text_flatMap_keys (by simp [Path.segments]) keyless

/-! ### Flattened documents -/

namespace Json

/-- Every scalar stands where a reference to pages and items of lists can lead. -/
def Referable (document : Json) : Prop :=
  ∀ address leaf, document.get? address = some leaf → leaf.isScalar = true →
    ∃ path : Path, path.Legible ∧ path.Keyless ∧ path.address = address

/-- A flattened document has the entries of its scalars, under the references to them. -/
theorem get?_flatten_eq_some_iff {document : Json} (object : document.outline = .obj [])
    (ordered : document.Ordered) (referable : document.Referable) {text : String} {leaf : Json} :
    document.flatten.get? text = some leaf ↔
      leaf.isScalar = true ∧ ∃ path : Path, path.Legible ∧ path.Keyless ∧ path.text = text ∧
        document.get? path.address = some leaf := by
  cases document with
  | obj members =>
    -- The scalars are listed under the texts of their paths, and a text has one path.
    have listed {value : Json} : (text, value) ∈ rootLeaves members ↔
        value.isScalar = true ∧ ∃ path : Path, path.Legible ∧ path.Keyless ∧ path.text = text ∧
          (Json.obj members).get? path.address = some value := by
      rw [mem_rootLeaves_iff ordered]
      constructor
      · rintro ⟨scalar, address, there, written⟩
        obtain ⟨path, legible, keyless, rfl⟩ := referable address value there scalar
        rw [Path.text_address keyless, String.append_right_inj] at written
        exact ⟨scalar, path, legible, keyless, written.symm, there⟩
      · rintro ⟨scalar, path, legible, keyless, rfl, there⟩
        exact ⟨scalar, path.address, there, (Path.text_address keyless).symm⟩
    rw [flatten, Table.get?_ofList_eq_some_iff, listed]
    intro a b first second
    obtain ⟨-, path, legible, -, written, there⟩ := listed.1 first
    obtain ⟨-, other, also, -, same, here⟩ := listed.1 second
    obtain rfl := Path.eq_of_text_eq legible also (written.trans same.symm)
    rw [there] at here
    exact Option.some.inj here
  | _ => cases object

end Json

end CaseForm

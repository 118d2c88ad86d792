import CaseForm.Json.Syntax
import CaseForm.Proofs.Document.Stride

/-!
What a write does at every address.

A write that succeeds divides the addresses of a document by where they leave its own:

* at the address and below it stands the value, unless a populated container stood there
  (`Document.get?_put_self`);
* before the address stand containers (`Document.get?_put_before`);
* beside it everything is as it was, but for two things: a list is filled up to the item that is
  written, and what stood in a list is gone where an object has taken the list's place
  (`Document.get?_put_beside`).

A write fails just where one of its steps refuses what the document holds
(`Document.put_eq_none_iff`). It keeps the members of objects in key order
(`Document.ordered_put`), and in key order is how they are read (`Syntax.ordered_value?`).
-/

namespace CaseForm

namespace Key

/-- The empty container that has a key of this kind. -/
def holder : Key → Json
  | .member _ => .obj []
  | .item _ => .arr []

/-- What stands under another key after a write went into this one and on along `rest`, from what
stood there before. -/
def beside (rest : Address) : Key → Key → Option Json → Option Json
  | .member _, .member _, found => found
  | .item index, .item other, found =>
    found.or (if other < index then some (Document.padding rest) else none)
  | _, _, _ => none

end Key

namespace Document

theorem padding_cases (rest : Address) : padding rest = .null ∨ padding rest = .obj [] := by
  unfold padding
  split
  · exact .inr rfl
  · exact .inl rfl

theorem child?_padding (rest : Address) (key : Key) : (padding rest).child? key = none := by
  rcases padding_cases rest with eq | eq <;> rw [eq] <;> cases key <;> rfl

theorem getElem?_padTo (length : Nat) (filler : Json) (rows : List Json) (index : Nat) :
    (padTo length filler rows)[index]? =
      rows[index]?.or (if index < length then some filler else none) := by
  rw [padTo, List.getElem?_append, List.getElem?_replicate]
  by_cases inside : index < rows.length
  · rw [if_pos inside, List.getElem?_eq_getElem inside, Option.some_or]
  · rw [if_neg inside, List.getElem?_eq_none (Nat.le_of_not_lt inside), Option.none_or]
    by_cases short : index < length
    · rw [if_pos short, if_pos (by omega)]
    · rw [if_neg short, if_neg (by omega)]

/-- A list that is long enough is not filled up. -/
theorem padTo_of_le {length : Nat} {rows : List Json} (long : length ≤ rows.length)
    (filler : Json) : padTo length filler rows = rows := by
  rw [padTo, Nat.sub_eq_zero_of_le long, List.replicate_zero, List.append_nil]

theorem le_length_padTo (length : Nat) (filler : Json) (rows : List Json) :
    length ≤ (padTo length filler rows).length := by
  rw [padTo, List.length_append, List.length_replicate]
  omega

end Document

namespace Stride

open Document (padding padding_cases child?_padding getElem?_padTo le_length_padTo)

theorem getElem?_items (value : Json) (index : Nat) :
    value.items[index]? = value.child? (.item index) := by
  cases value <;> rfl

theorem get?_members (value : Json) (name : String) :
    Entries.get? name value.members = value.child? (.member name) := by
  cases value <;> rfl

/-- A step makes its container without touching what stands under another key. -/
theorem child?_container_of_ne {stride : Stride} {key : Key} (ne : key ≠ stride.key)
    (rest : List Stride) (value : Json) :
    (stride.container rest value).child? key =
      stride.key.beside (rest.map Stride.key) key (value.child? key) := by
  cases stride with
  | member name guarded =>
    cases key with
    | member other => exact get?_members value other
    | item other => rfl
  | item index =>
    cases key with
    | member other => rfl
    | item other =>
      have apart : other ≠ index := by
        intro eq
        exact ne (by rw [eq]; rfl)
      have before : other < index + 1 ↔ other < index := by omega
      simp only [container, Json.child?_arr_item, getElem?_padTo, getElem?_items, Key.beside,
        Stride.key, before]

/-- What a step hands on where nothing stood. It is no populated container. -/
def blank (rest : List Stride) : Stride → Json
  | .member _ _ => .null
  | .item _ => padding (rest.map Stride.key)

theorem inner_eq (rest : List Stride) (stride : Stride) (value : Json) :
    stride.inner rest value = (value.child? stride.key).getD (stride.blank rest) := by
  cases stride with
  | member name guarded =>
    rw [inner, container, key, Json.child?_obj_member, get?_members, blank]
  | item index =>
    rw [inner, container, key, Json.child?_arr_item, getElem?_padTo, getElem?_items, blank,
      if_pos (Nat.lt_succ_self index)]
    cases value.child? (.item index) <;> rfl

theorem blank_cases (rest : List Stride) (stride : Stride) :
    stride.blank rest = .null ∨ stride.blank rest = .obj [] := by
  cases stride with
  | member name guarded => exact .inl rfl
  | item index => exact padding_cases _

theorem child?_blank (rest : List Stride) (stride : Stride) (key : Key) :
    (stride.blank rest).child? key = none := by
  rcases blank_cases rest stride with eq | eq <;> rw [eq] <;> cases key <;> rfl

/-- Below its child a step shows what stood there before. -/
theorem get?_inner (rest : List Stride) (stride : Stride) (value : Json) (key : Key)
    (below : Address) :
    (stride.inner rest value).get? (key :: below) = value.get? (stride.key :: key :: below) := by
  rw [inner_eq, Json.get?_cons value]
  cases value.child? stride.key with
  | none => rw [Option.getD_none, Json.get?_cons, child?_blank, Option.bind_none, Option.bind_none]
  | some child => rfl

theorem get?_inner_of_eq_some {stride : Stride} {value found : Json} {below : Address}
    (h : value.get? (stride.key :: below) = some found) (rest : List Stride) :
    (stride.inner rest value).get? below = some found := by
  cases below with
  | nil =>
    rw [Json.get?_cons, Option.bind_eq_some_iff] at h
    obtain ⟨child, there, eq⟩ := h
    rw [inner_eq, there, Option.getD_some, eq]
  | cons key below => rw [get?_inner, h]

/-- What fills a list is not refused by the step into it. -/
theorem clashes_blank (stride next : Stride) (rest : List Stride) :
    next.clashes (stride.blank (next :: rest)) = false := by
  cases stride <;> cases next <;> rfl

theorem child?_store_self (rest : List Stride) (stride : Stride) (value child : Json) :
    ((stride.container rest value).store stride.key child).child? stride.key = some child := by
  cases stride with
  | member name guarded => exact Entries.get?_set_self ..
  | item index =>
    have inside := le_length_padTo (index + 1) (padding (rest.map Stride.key)) value.items
    exact List.getElem?_set_self (Nat.lt_of_succ_le inside)

theorem child?_store_of_ne {stride : Stride} {key : Key} (ne : key ≠ stride.key)
    (rest : List Stride) (value child : Json) :
    ((stride.container rest value).store stride.key child).child? key =
      (stride.container rest value).child? key := by
  cases stride with
  | member name guarded =>
    cases key with
    | member other => exact Entries.get?_set_of_ne (fun eq => ne (by rw [eq]; rfl)) ..
    | item other => rfl
  | item index =>
    cases key with
    | member other => rfl
    | item other => exact List.getElem?_set_ne fun eq => ne (by rw [← eq]; rfl)

theorem occupied_store (rest : List Stride) (stride : Stride) (value child : Json) :
    Document.occupied ((stride.container rest value).store stride.key child) = true := by
  cases stride with
  | member name guarded =>
    have found : Entries.get? name (Entries.set name child value.members) = some child :=
      Entries.get?_set_self ..
    have filled : Entries.set name child value.members ≠ [] := by
      intro eq
      rw [eq] at found
      cases found
    simpa [container, key, Json.store, Document.occupied] using filled
  | item index => rfl

theorem outline_store (rest : List Stride) (stride : Stride) (value child : Json) :
    ((stride.container rest value).store stride.key child).outline = stride.key.holder := by
  cases stride <;> rfl

end Stride

namespace Document

/-- A write whose first step is not refused goes on inside, and stores what comes out. -/
theorem put_cons_eq_some_iff {value : Json} {stride : Stride} {rest : List Stride}
    {old new : Json} :
    put value (stride :: rest) old = some new ↔
      stride.clashes old = false ∧ ∃ child, put value rest (stride.inner rest old) = some child ∧
        (stride.container rest old).store stride.key child = new := by
  rw [put]
  cases stride.clashes old <;> simp

variable {value : Json} {old new : Json}

theorem overwrite_of_free (value : Json) {held : Json} (free : occupied held = false) :
    overwrite value held = value := by
  simp [overwrite, free]

theorem not_occupied_of_isScalar {value : Json} (scalar : value.isScalar = true) :
    occupied value = false := by
  cases value <;> first | rfl | cases scalar

theorem not_occupied_blank (rest : List Stride) (stride : Stride) :
    occupied (stride.blank rest) = false := by
  rcases Stride.blank_cases rest stride with eq | eq <;> rw [eq] <;> rfl

/-- A value does not differ from `null` or the empty object as something to write over. -/
theorem overwrite_blank (value : Json) (rest : List Stride) (stride : Stride) :
    overwrite value (stride.blank rest) = value :=
  overwrite_of_free value (not_occupied_blank rest stride)

/-- Writing over what a step hands on is writing over what stood there. -/
theorem overwrite_inner (value old : Json) (stride : Stride) (rest : List Stride)
    (below : Address) :
    overwrite value (((stride.inner rest old).get? below).getD .null) =
      overwrite value ((old.get? (stride.key :: below)).getD .null) := by
  cases below with
  | nil =>
    rw [Stride.inner_eq, Json.get?_cons, Json.get?_nil, Option.getD_some]
    cases old.child? stride.key with
    | none => exact overwrite_blank ..
    | some child => rfl
  | cons key below => rw [Stride.get?_inner]

/-- At its address and below, a write leaves its value, or the container that stood there. -/
theorem get?_put_self {strides : List Stride} (written : put value strides old = some new)
    (below : Address) :
    new.get? (strides.map Stride.key ++ below) =
      (overwrite value ((old.get? (strides.map Stride.key)).getD .null)).get? below := by
  induction strides generalizing old new with
  | nil =>
    cases written
    rfl
  | cons stride rest ih =>
    obtain ⟨-, child, inside, rfl⟩ := put_cons_eq_some_iff.1 written
    rw [List.map_cons, List.cons_append, Json.get?_cons, Stride.child?_store_self,
      Option.bind_some, ih inside, overwrite_inner]

/-- Before its address a write leaves populated containers of the kind that is passed. -/
theorem get?_put_before {before after : List Stride} {stride : Stride}
    (written : put value (before ++ stride :: after) old = some new) :
    ∃ container, new.get? (before.map Stride.key) = some container ∧
      container.outline = stride.key.holder ∧ occupied container = true := by
  induction before generalizing old new with
  | nil =>
    obtain ⟨-, child, -, rfl⟩ := put_cons_eq_some_iff.1 written
    exact ⟨_, rfl, Stride.outline_store .., Stride.occupied_store ..⟩
  | cons first before ih =>
    obtain ⟨-, child, inside, rfl⟩ := put_cons_eq_some_iff.1 written
    rw [List.map_cons, Json.get?_cons, Stride.child?_store_self, Option.bind_some]
    exact ih inside

/-- Beside its address a write changes a list that it fills up, and what an object replaces. -/
theorem get?_put_beside {before after : List Stride} {stride : Stride} {key : Key}
    (written : put value (before ++ stride :: after) old = some new) (ne : key ≠ stride.key)
    (below : Address) :
    new.get? (before.map Stride.key ++ key :: below) =
      (stride.key.beside (after.map Stride.key) key
        (old.get? (before.map Stride.key ++ [key]))).bind fun found => found.get? below := by
  induction before generalizing old new with
  | nil =>
    obtain ⟨-, child, -, rfl⟩ := put_cons_eq_some_iff.1 written
    rw [List.map_nil, List.nil_append, Json.get?_cons, Stride.child?_store_of_ne ne,
      Stride.child?_container_of_ne ne, List.nil_append, Json.get?_cons]
    cases old.child? key <;> rfl
  | cons first before ih =>
    obtain ⟨-, child, inside, rfl⟩ := put_cons_eq_some_iff.1 written
    rw [List.map_cons, List.cons_append, Json.get?_cons, Stride.child?_store_self,
      Option.bind_some, ih inside, List.cons_append]
    cases before with
    | nil => rw [List.map_nil, List.nil_append, Stride.get?_inner]
    | cons second before => rw [List.map_cons, List.cons_append, Stride.get?_inner]

/-- A write fails just where one of its steps refuses what the document holds. -/
theorem put_eq_none_iff {strides : List Stride} :
    put value strides old = none ↔
      ∃ before stride after found, strides = before ++ stride :: after ∧
        old.get? (before.map Stride.key) = some found ∧ stride.clashes found = true := by
  induction strides generalizing old with
  | nil => simp [put]
  | cons first rest ih =>
    rw [put]
    cases clash : first.clashes old with
    | true => simpa using ⟨[], first, ⟨rest, rfl⟩, old, rfl, clash⟩
    | false =>
      simp only [Bool.false_eq_true, if_false, Option.map_eq_none_iff, ih]
      constructor
      · rintro ⟨before, stride, after, found, rfl, there, refused⟩
        refine ⟨first :: before, stride, after, found, rfl, ?_, refused⟩
        cases before with
        | nil =>
          cases there
          rw [List.nil_append, Stride.inner_eq] at refused
          rw [List.map_cons, List.map_nil, Json.get?_cons, Stride.inner_eq]
          cases here : old.child? first.key with
          | none =>
            rw [here, Option.getD_none, Stride.clashes_blank] at refused
            cases refused
          | some child => rfl
        | cons second before =>
          rw [List.map_cons, Stride.get?_inner] at there
          exact there
      · rintro ⟨before, stride, after, found, split, there, refused⟩
        cases before with
        | nil =>
          cases split
          cases there
          rw [clash] at refused
          cases refused
        | cons second before =>
          cases split
          exact ⟨before, stride, after, found, rfl, Stride.get?_inner_of_eq_some there _, refused⟩

/-! ### Writes inside of a value -/

/-- A step makes of what is no populated container what it makes of nothing. -/
theorem container_of_free {held : Json} (free : occupied held = false) (rest : List Stride)
    (stride : Stride) : stride.container rest held = stride.container rest .null := by
  cases held with
  | arr items => cases free
  | obj members =>
    cases members with
    | nil => cases stride <;> rfl
    | cons member members => cases free
  | _ => cases stride <;> rfl

/-- A write into what is no populated container leaves behind what it leaves of nothing. -/
theorem put_of_free {strides : List Stride} {held : Json} (free : occupied held = false)
    (written : put value strides held = some new) : put value strides .null = some new := by
  cases strides with
  | nil =>
    rw [put, overwrite_of_free value free] at written
    exact written
  | cons stride rest =>
    obtain ⟨-, child, inside, rfl⟩ := put_cons_eq_some_iff.1 written
    have same := container_of_free free rest stride
    rw [Stride.inner, same] at inside
    rw [same]
    exact put_cons_eq_some_iff.2 ⟨by cases stride <;> rfl, child, inside, rfl⟩

/-- What stands on the way of a write is written into along the rest of the way. -/
theorem get?_put_inside {before after : List Stride}
    (written : put value (before ++ after) old = some new) :
    ∃ found, new.get? (before.map Stride.key) = some found ∧
      put value after ((old.get? (before.map Stride.key)).getD .null) = some found := by
  induction before generalizing old new with
  | nil => exact ⟨new, rfl, written⟩
  | cons first before ih =>
    obtain ⟨-, child, inside, rfl⟩ := put_cons_eq_some_iff.1 written
    obtain ⟨found, there, inner⟩ := ih inside
    rw [List.map_cons, Json.get?_cons, Stride.child?_store_self, Option.bind_some]
    refine ⟨found, there, ?_⟩
    cases before with
    | cons second before => rwa [List.map_cons, Stride.get?_inner] at inner
    | nil =>
      rw [List.map_nil, Json.get?_nil, Option.getD_some, Stride.inner_eq] at inner
      rw [List.map_nil, Json.get?_cons]
      cases here : old.child? first.key with
      | some child => rwa [here] at inner
      | none =>
        -- A list is filled up to the item; what fills it counts as nothing.
        rw [here, Option.getD_none] at inner
        exact put_of_free (not_occupied_blank _ first) inner

/-! ### Key order -/

theorem ordered_child? {container child : Json} {key : Key} (ordered : container.Ordered)
    (h : container.child? key = some child) : child.Ordered := by
  cases container with
  | obj members =>
    cases key with
    | member name => exact Json.orderedMembers_iff.1 ordered.2 _ (Entries.mem_of_get? h)
    | item index => cases h
  | arr items =>
    cases key with
    | member name => cases h
    | item index => exact Json.orderedItems_iff.1 ordered _ (List.mem_of_getElem? h)
  | _ => cases key <;> cases h

theorem ordered_padding (rest : Address) : (padding rest).Ordered := by
  rcases padding_cases rest with eq | eq <;> rw [eq]
  · exact trivial
  · exact ⟨Entries.sorted_nil, trivial⟩

theorem ordered_container {old : Json} (ordered : old.Ordered) (stride : Stride)
    (rest : List Stride) : (stride.container rest old).Ordered := by
  cases stride with
  | member name guarded =>
    cases old with
    | obj members => exact ordered
    | _ => exact ⟨Entries.sorted_nil, trivial⟩
  | item index =>
    apply Json.orderedItems_iff.2
    intro item mem
    rcases List.mem_append.1 mem with there | added
    · cases old with
      | arr items => exact Json.orderedItems_iff.1 ordered item there
      | _ => cases there
    · rw [List.eq_of_mem_replicate added]
      exact ordered_padding _

theorem ordered_set {members : Entries Json} {value : Json} (ordered : (Json.obj members).Ordered)
    (fine : value.Ordered) (name : String) :
    (Json.obj (Entries.set name value members)).Ordered := by
  refine ⟨Entries.sorted_set ordered.1 name value, Json.orderedMembers_iff.2 ?_⟩
  intro entry mem
  rcases Entries.mem_set mem with rfl | there
  · exact fine
  · exact Json.orderedMembers_iff.1 ordered.2 entry there

theorem ordered_store {container child : Json} (ordered : container.Ordered)
    (inside : child.Ordered) (key : Key) : (container.store key child).Ordered := by
  cases container with
  | obj members =>
    cases key with
    | member name => exact ordered_set ordered inside name
    | item index => exact ordered
  | arr items =>
    cases key with
    | member name => exact ordered
    | item index =>
      apply Json.orderedItems_iff.2
      intro item mem
      rcases List.mem_or_eq_of_mem_set mem with there | rfl
      · exact Json.orderedItems_iff.1 ordered item there
      · exact inside
  | _ => cases key <;> exact ordered

/-- A write keeps the members of every object in key order. -/
theorem ordered_put {strides : List Stride} (written : put value strides old = some new)
    (fine : value.Ordered) (ordered : old.Ordered) : new.Ordered := by
  induction strides generalizing old new with
  | nil =>
    cases written
    unfold overwrite
    split
    · exact ordered
    · exact fine
  | cons stride rest ih =>
    obtain ⟨-, child, inside, rfl⟩ := put_cons_eq_some_iff.1 written
    have container := ordered_container ordered stride rest
    refine ordered_store container (ih inside ?_) _
    rw [Stride.inner]
    cases there : (stride.container rest old).child? stride.key with
    | none => exact trivial
    | some found => exact ordered_child? container there

end Document

namespace Syntax

open Json (orderedItems_iff)
open Document (ordered_set)

mutual

/-- A value that is read has its members in key order. -/
theorem ordered_value? (source : Syntax) {value : Json} (read : source.value? = some value) :
    value.Ordered := by
  cases source with
  | arr items =>
    obtain ⟨values, inside, rfl⟩ := Option.map_eq_some_iff.1 read
    exact orderedItems_iff.2 (ordered_itemValues? items inside)
  | obj members =>
    obtain ⟨entries, inside, rfl⟩ := Option.map_eq_some_iff.1 read
    exact ordered_memberValues? members ⟨Entries.sorted_nil, trivial⟩ inside
  | void => cases read
  | cut => cases read
  | _ =>
    cases read
    exact trivial

theorem ordered_itemValues? (items : List Syntax) {values : List Json}
    (read : itemValues? items = some values) : ∀ value ∈ values, value.Ordered := by
  cases items with
  | nil =>
    cases read
    intro value mem
    cases mem
  | cons item items =>
    obtain ⟨first, here, read⟩ := Option.bind_eq_some_iff.1 read
    obtain ⟨rest, later, read⟩ := Option.bind_eq_some_iff.1 read
    cases read
    intro value mem
    rcases List.mem_cons.1 mem with rfl | mem
    · exact ordered_value? item here
    · exact ordered_itemValues? items later value mem

theorem ordered_memberValues? (members : List (Option String × Syntax))
    {before after : Entries Json} (ordered : (Json.obj before).Ordered)
    (read : memberValues? before members = some after) : (Json.obj after).Ordered := by
  match members, read with
  | [], read =>
    cases read
    exact ordered
  | (none, _) :: _, read => cases read
  | (some key, source) :: members, read =>
    obtain ⟨first, here, read⟩ := Option.bind_eq_some_iff.1 read
    exact ordered_memberValues? members (ordered_set ordered (ordered_value? source here) key) read

end

end Syntax

end CaseForm

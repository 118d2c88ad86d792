import CaseForm.Document.Write

/-!
Addresses: the places of a nested document, and reading at them.

A reference addresses one place, whatever way it is written: `name(n)` is item `n - 1` of the list
`name`, and both `name(key)` and `name.key` are the member `key` of the object `name`. What a
document holds is said by what it answers at every address:

* `Json.get?_append`: reading is done key by key;
* `Json.ext_get?`: two ordered documents that show the same outlines everywhere are equal.
-/

namespace CaseForm

/-- One level of nesting: a member of an object, or an item of an array. -/
inductive Key where
  | member (name : String)
  | item (index : Nat)
  deriving DecidableEq, Repr

/-- A place in a document: the keys that lead to it from the root. -/
abbrev Address := List Key

/-- The keys that a segment leads through. -/
def Segment.keys : Segment → Address
  | .page name => [.member name]
  | .listItem name index => [.member name, .item index]
  | .groupEntry name key => [.member name, .member key]

namespace Path

/-- The place that a path leads to. -/
def address (path : Path) : Address := path.segments.flatMap Segment.keys

theorem address_eq (path : Path) :
    path.address = path.containers.flatMap Segment.keys ++ path.leaf.keys := by
  simp [address, segments]

end Path

namespace Json

/-- The value under a key, if the value is a container that has it. -/
def child? : Json → Key → Option Json
  | .obj members, .member name => Entries.get? name members
  | .arr items, .item index => items[index]?
  | _, _ => none

/-- The value at an address. -/
def get? (value : Json) : Address → Option Json
  | [] => some value
  | key :: rest => (value.child? key).bind fun child => child.get? rest

/-- Whether the value is neither an array nor an object. -/
def isScalar : Json → Bool
  | .arr _ | .obj _ => false
  | _ => true

/-- The value without what lies inside it. -/
def outline : Json → Json
  | .arr _ => .arr []
  | .obj _ => .obj []
  | scalar => scalar

@[simp] theorem child?_obj_member (members : Entries Json) (name : String) :
    (Json.obj members).child? (.member name) = Entries.get? name members := rfl

@[simp] theorem child?_arr_item (items : List Json) (index : Nat) :
    (Json.arr items).child? (.item index) = items[index]? := rfl

@[simp] theorem child?_obj_item (members : Entries Json) (index : Nat) :
    (Json.obj members).child? (.item index) = none := rfl

@[simp] theorem child?_arr_member (items : List Json) (name : String) :
    (Json.arr items).child? (.member name) = none := rfl

theorem child?_of_isScalar {value : Json} (scalar : value.isScalar = true) (key : Key) :
    value.child? key = none := by
  cases value <;> cases key <;> simp_all [isScalar, child?]

@[simp] theorem get?_nil (value : Json) : value.get? [] = some value := rfl

theorem get?_cons (value : Json) (key : Key) (rest : Address) :
    value.get? (key :: rest) = (value.child? key).bind fun child => child.get? rest := rfl

theorem get?_append (value : Json) (address rest : Address) :
    value.get? (address ++ rest) = (value.get? address).bind fun inner => inner.get? rest := by
  induction address generalizing value with
  | nil => rfl
  | cons key address ih =>
    simp only [List.cons_append, get?_cons]
    cases value.child? key with
    | none => rfl
    | some child => exact ih child

/-- What lies below a scalar is nothing. -/
theorem get?_of_isScalar {value : Json} (scalar : value.isScalar = true) {address : Address}
    (below : address ≠ []) : value.get? address = none := by
  cases address with
  | nil => exact absurd rfl below
  | cons key rest => rw [get?_cons, child?_of_isScalar scalar, Option.bind_none]

/-- A value that answers at a member is an object. -/
theorem outline_of_get?_member {value found : Json} {name : String} {rest : Address}
    (h : value.get? (.member name :: rest) = some found) : value.outline = .obj [] := by
  cases value <;> simp_all [get?_cons, child?, outline]

/-- A value that answers at an item is an array. -/
theorem outline_of_get?_item {value found : Json} {index : Nat} {rest : Address}
    (h : value.get? (.item index :: rest) = some found) : value.outline = .arr [] := by
  cases value <;> simp_all [get?_cons, child?, outline]

@[simp] theorem isScalar_outline (value : Json) : value.outline.isScalar = value.isScalar := by
  cases value <;> rfl

/-! ### Values that look alike -/

theorem orderedItems_iff {items : List Json} :
    OrderedItems items ↔ ∀ item ∈ items, item.Ordered := by
  induction items with
  | nil => simp [OrderedItems]
  | cons item items ih => simp [OrderedItems, ih]

theorem orderedMembers_iff {members : List (String × Json)} :
    OrderedMembers members ↔ ∀ entry ∈ members, entry.2.Ordered := by
  induction members with
  | nil => simp [OrderedMembers]
  | cons entry members ih => simp [OrderedMembers, ih]

/-- The two values show the same outline at every address. -/
def Alike (a b : Json) : Prop :=
  ∀ address, (a.get? address).map outline = (b.get? address).map outline

namespace Alike

variable {a b : Json}

theorem outline_eq (alike : Alike a b) : a.outline = b.outline := by
  simpa using alike []

/-- Values that look alike do so key by key. -/
theorem child? (alike : Alike a b) (key : Key) :
    (a.child? key = none ∧ b.child? key = none) ∨
      ∃ x y, a.child? key = some x ∧ b.child? key = some y ∧ Alike x y := by
  have below : ∀ rest, (a.get? (key :: rest)).map outline = (b.get? (key :: rest)).map outline :=
    fun rest => alike (key :: rest)
  simp only [get?_cons] at below
  have here := below []
  cases ha : a.child? key with
  | none =>
    cases hb : b.child? key with
    | none => exact .inl ⟨rfl, rfl⟩
    | some y => simp [ha, hb] at here
  | some x =>
    cases hb : b.child? key with
    | none => simp [ha, hb] at here
    | some y => exact .inr ⟨x, y, rfl, rfl, fun rest => by simpa [ha, hb] using below rest⟩

end Alike

/-- Ordered values that look alike everywhere are equal. -/
theorem ext_get? {a b : Json} (ha : a.Ordered) (hb : b.Ordered) (alike : Alike a b) : a = b := by
  match a, b, alike.outline_eq with
  | .null, .null, _ => rfl
  | .bool _, .bool _, h => exact h
  | .num _, .num _, h => exact h
  | .str _, .str _, h => exact h
  | .arr xs, .arr ys, _ =>
    congr 1
    apply List.ext_getElem?
    intro i
    rcases alike.child? (.item i) with ⟨hx, hy⟩ | ⟨x, y, hx, hy, inner⟩
    · exact hx.trans hy.symm
    · have mx : x ∈ xs := List.mem_of_getElem? hx
      have my : y ∈ ys := List.mem_of_getElem? hy
      rw [child?_arr_item] at hx hy
      rw [hx, hy, ext_get? (orderedItems_iff.1 ha x mx) (orderedItems_iff.1 hb y my) inner]
  | .obj xs, .obj ys, _ =>
    congr 1
    apply Entries.eq_of_get?_eq ha.1 hb.1
    intro name
    rcases alike.child? (.member name) with ⟨hx, hy⟩ | ⟨x, y, hx, hy, inner⟩
    · exact hx.trans hy.symm
    · have mx := Entries.mem_of_get? hx
      have my := Entries.mem_of_get? hy
      rw [child?_obj_member] at hx hy
      have same : x = y :=
        ext_get? (orderedMembers_iff.1 ha.2 _ mx) (orderedMembers_iff.1 hb.2 _ my) inner
      rw [hx, hy, same]
termination_by sizeOf a
decreasing_by
  · have := List.sizeOf_lt_of_mem mx
    simp only [Json.arr.sizeOf_spec]
    omega
  · have := List.sizeOf_lt_of_mem mx
    simp only [Json.obj.sizeOf_spec, Prod.mk.sizeOf_spec] at this ⊢
    omega

end Json

end CaseForm

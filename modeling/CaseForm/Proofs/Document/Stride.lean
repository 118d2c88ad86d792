import CaseForm.Proofs.Document.Address

/-!
Writing key by key.

`Document.walk` follows the segments of a reference, and every kind of segment makes and checks its
containers in its own way. Here the same write is done one key at a time: a step makes the value
that it finds into the container that it needs, and hands the child on. The kinds of segments
differ only in one bit of a step, whether an array in the way of an object is refused
(`Stride.guarded`); a page is guarded, and what a subscript leads to is not.

* `Document.put_strides`: the two ways of writing are one;
* `Addressing.write_eq_ok_iff`: hence a write by reference that succeeds is a `put`.
-/

namespace CaseForm

/-- What fills a list up to an item: pages where the address goes on into a page. -/
def Document.padding : Address → Json
  | .member _ :: _ => .obj []
  | _ => .null

/-- A step of a write, into a member or an item. A guarded step refuses an array where it needs an
object; one that is not guarded has an object take the place of the array. -/
inductive Stride where
  | member (name : String) (guarded : Bool)
  | item (index : Nat)
  deriving DecidableEq, Repr

namespace Stride

/-- The key that the step goes to. -/
def key : Stride → Key
  | .member name _ => .member name
  | .item index => .item index

/-- Whether the step refuses what it finds. -/
def clashes : Stride → Json → Bool
  | .member _ guarded, .arr _ => guarded
  | .item _, .obj _ => true
  | _, _ => false

/-- What the step makes of the value that it finds. A list is filled up to the item. -/
def container (rest : List Stride) : Stride → Json → Json
  | .member _ _, value => .obj value.members
  | .item index, value => .arr (padTo (index + 1) (Document.padding (rest.map key)) value.items)

/-- The value that the step hands on. -/
def inner (rest : List Stride) (stride : Stride) (value : Json) : Json :=
  ((stride.container rest value).child? stride.key).getD .null

end Stride

/-- The container with another child under a key that it can have. -/
def Json.store : Json → Key → Json → Json
  | .obj members, .member name, child => .obj (Entries.set name child members)
  | .arr items, .item index, child => .arr (items.set index child)
  | value, _, _ => value

namespace Document

/-- Writes a value at the end of the steps. -/
def put (value : Json) : List Stride → Json → Option Json
  | [], old => some (overwrite value old)
  | stride :: rest, old =>
    if stride.clashes old then none
    else
      (put value rest (stride.inner rest old)).map
        fun child => (stride.container rest old).store stride.key child

/-- The document that a change leaves behind, if it succeeds. -/
def Change.document? (change : Change Unit) : Option Json :=
  match change.2 with
  | .ok _ => some (.obj change.1)
  | .error _ => none

end Document

/-! ### The steps of a path -/

/-- The steps of a segment, the first one guarded or not. -/
def Segment.strides (guarded : Bool) : Segment → List Stride
  | .page name => [.member name guarded]
  | .listItem name index => [.member name guarded, .item index]
  | .groupEntry name key => [.member name guarded, .member key true]

/-- Whether the step out of the segment is guarded. -/
def Segment.guards : Segment → Bool
  | .page _ => true
  | .listItem _ _ | .groupEntry _ _ => false

namespace Path

/-- The steps through containers to a last segment. -/
def stridesFrom (leaf : Segment) : Bool → List Segment → List Stride
  | guarded, [] => leaf.strides guarded
  | guarded, segment :: rest => segment.strides guarded ++ stridesFrom leaf segment.guards rest

/-- The steps from the root. -/
def strides (path : Path) : List Stride := stridesFrom path.leaf false path.containers

end Path

namespace Document

theorem put_member (value : Json) (name : String) (guarded : Bool) (rest : List Stride) (old : Json)
    (fits : guarded = true → old.outline ≠ .arr []) :
    put value (.member name guarded :: rest) old =
      (put value rest ((Entries.get? name old.members).getD .null)).map
        fun child => .obj (Entries.set name child old.members) := by
  have free : Stride.clashes (.member name guarded) old = false := by
    cases old <;> cases guarded <;> simp_all [Stride.clashes, Json.outline]
  rw [put, free]
  rfl

theorem put_item (value : Json) (index : Nat) (rest : List Stride) (old : Json)
    (fits : old.outline ≠ .obj []) :
    put value (.item index :: rest) old =
      (put value rest
        ((padTo (index + 1) (padding (rest.map Stride.key)) old.items).getD index .null)).map
        fun child =>
          .arr ((padTo (index + 1) (padding (rest.map Stride.key)) old.items).set index child) := by
  have free : Stride.clashes (.item index) old = false := by
    cases old <;> simp_all [Stride.clashes, Json.outline]
  rw [put, free, List.getD_eq_getElem?_getD]
  rfl

/-- The result of a change inside a change. -/
theorem Change.document?_inside (wrap : Json → Entries Json) (change : Change Unit) :
    Change.document? (wrap (.obj change.1), change.2) =
      change.document?.map fun child => .obj (wrap child) := by
  obtain ⟨members, result⟩ := change
  cases result <;> rfl

theorem Change.document?_eq_some_iff {change : Change Unit} {next : Json} :
    change.document? = some next ↔ change.2 = .ok () ∧ .obj change.1 = next := by
  obtain ⟨members, result⟩ := change
  cases result <;> simp [Change.document?]

/-- The first step goes into a member and is guarded as asked. -/
theorem exists_stridesFrom_eq (leaf : Segment) (containers : List Segment) (guarded : Bool) :
    ∃ name rest, Path.stridesFrom leaf guarded containers = .member name guarded :: rest := by
  cases containers with
  | nil => cases leaf <;> exact ⟨_, _, rfl⟩
  | cons segment containers => cases segment <;> exact ⟨_, _, rfl⟩

/-- A guarded write does not go into an array. -/
theorem put_stridesFrom_arr (leaf : Segment) (value : Json) (containers : List Segment)
    (items : List Json) :
    put value (Path.stridesFrom leaf true containers) (.arr items) = none := by
  obtain ⟨name, rest, eq⟩ := exists_stridesFrom_eq leaf containers true
  rw [eq]
  rfl

/-- Walking by segments and writing key by key leave the same document behind, from a value that
the first step does not refuse. -/
theorem put_strides (reference : String) (leaf : Segment) (value : Json)
    (containers : List Segment) (guarded : Bool) (old : Json)
    (fits : guarded = true → old.outline ≠ .arr []) :
    put value (Path.stridesFrom leaf guarded containers) old =
      Change.document? (walk reference (assign reference leaf value) containers old.members) := by
  induction containers generalizing guarded old with
  | nil =>
    cases leaf with
    | page name =>
      rw [Path.stridesFrom, Segment.strides, put_member _ _ _ _ _ fits]
      rfl
    | listItem name index =>
      rw [Path.stridesFrom, Segment.strides, put_member _ _ _ _ _ fits]
      simp only [walk, assign]
      generalize (Entries.get? name old.members).getD .null = found
      cases found with
      | obj members => rfl
      | _ =>
        rw [put_item _ _ _ _ (by simp [Json.outline])]
        rfl
    | groupEntry name key =>
      rw [Path.stridesFrom, Segment.strides, put_member _ _ _ _ _ fits]
      simp only [walk, assign]
      generalize (Entries.get? name old.members).getD .null = found
      cases found with
      | arr items => rfl
      | _ =>
        rw [put_member _ _ _ _ _ (by simp [Json.outline])]
        rfl
  | cons segment rest ih =>
    -- What is found under the name is refused, or is walked into; the inner walk is the hypothesis.
    cases segment with
    | page name =>
      rw [Path.stridesFrom, Segment.strides, List.singleton_append, put_member _ _ _ _ _ fits]
      simp only [walk]
      generalize (Entries.get? name old.members).getD .null = found
      cases found with
      | arr items => rw [Segment.guards, put_stridesFrom_arr]; rfl
      | _ =>
        rw [ih _ _ (by simp [Json.outline]),
          Change.document?_inside fun child => Entries.set name child old.members]
    | listItem name index =>
      rw [Path.stridesFrom, Segment.strides, List.cons_append, List.singleton_append,
        put_member _ _ _ _ _ fits]
      simp only [walk]
      have pages : padding ((Path.stridesFrom leaf false rest).map Stride.key) = .obj [] := by
        obtain ⟨name, rest, eq⟩ := exists_stridesFrom_eq leaf rest false
        rw [eq]
        rfl
      generalize (Entries.get? name old.members).getD .null = found
      cases found with
      | obj members => rfl
      | _ =>
        rw [put_item _ _ _ _ (by simp [Json.outline]), Segment.guards, ih _ _ (by simp), pages,
          Change.document?_inside fun child => Entries.set name
            (.arr ((padTo (index + 1) (.obj []) (Json.items _)).set index child)) old.members]
        simp only [Option.map_map]
        rfl
    | groupEntry name key =>
      rw [Path.stridesFrom, Segment.strides, List.cons_append, List.singleton_append,
        put_member _ _ _ _ _ fits]
      simp only [walk]
      generalize (Entries.get? name old.members).getD .null = found
      cases found with
      | arr items => rfl
      | _ =>
        rw [put_member _ _ _ _ _ (by simp [Json.outline]), Segment.guards, ih _ _ (by simp),
          Change.document?_inside fun child => Entries.set name
            (.obj (Entries.set key child (Json.members _))) old.members]
        simp only [Option.map_map]
        rfl

end Document

namespace Addressing

/-- A write that succeeds puts its value at the end of the steps of its path. -/
theorem write_eq_ok_iff (addressing : Addressing) (reference : String) (value old new : Json) :
    addressing.write reference value old = (new, .ok ()) ↔
      ∃ path, addressing.parse reference = .ok path ∧
        Document.put value path.strides old = some new := by
  unfold write
  cases addressing.parse reference with
  | error e => simp
  | ok path =>
    simp only [Except.ok.injEq, exists_eq_left', Path.strides,
      Document.put_strides reference path.leaf value path.containers false old (by simp)]
    generalize Document.walk reference _ path.containers old.members = change
    obtain ⟨members, result⟩ := change
    cases result <;> simp [Document.Change.document?]

end Addressing

end CaseForm

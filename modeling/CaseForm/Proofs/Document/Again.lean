import CaseForm.Proofs.Document.Reach

/-!
Reading a write back, and writing the same again.

What a write makes on its way is just what the same write needs: objects and lists where it goes on,
lists that are long enough, and at the end its value or a populated container. So the write finds
its own document as it would leave it, in whatever order the members of the objects stand
(`Document.put_put`).
-/

namespace CaseForm

namespace Stride

open Document (le_length_padTo padTo_of_le)

/-! ### The container of a step -/

theorem clashes_store (rest : List Stride) (stride : Stride) (value child : Json) :
    stride.clashes ((stride.container rest value).store stride.key child) = false := by
  cases stride <;> rfl

/-- A container that a step has made is made into nothing else by the step. -/
theorem container_store (rest : List Stride) (stride : Stride) (value child : Json) :
    stride.container rest ((stride.container rest value).store stride.key child) =
      (stride.container rest value).store stride.key child := by
  cases stride with
  | member name guarded => rfl
  | item index =>
    have long := le_length_padTo (index + 1) (Document.padding (rest.map key)) value.items
    simp only [container, key, Json.store, Json.items]
    rw [padTo_of_le (by rwa [List.length_set])]

/-- A step hands on what was stored where it goes. -/
theorem inner_store (rest : List Stride) (stride : Stride) (value child : Json) :
    stride.inner rest ((stride.container rest value).store stride.key child) = child := by
  rw [inner, container_store, child?_store_self, Option.getD_some]

theorem store_store (rest : List Stride) (stride : Stride) (value child : Json) :
    ((stride.container rest value).store stride.key child).store stride.key child =
      (stride.container rest value).store stride.key child := by
  cases stride with
  | member name guarded => simp only [container, key, Json.store, Entries.set_set]
  | item index => simp only [container, key, Json.store, List.set_set]

end Stride

namespace Document

variable {value old new : Json}

theorem overwrite_overwrite (value old : Json) :
    overwrite value (overwrite value old) = overwrite value old := by
  cases filled : occupied old with
  | true => simp only [overwrite, filled, if_true]
  | false => rw [overwrite_of_free value filled, overwrite, ite_self]

/-- A write changes nothing in the document that it leaves behind. -/
theorem put_put {strides : List Stride} (written : put value strides old = some new) :
    put value strides new = some new := by
  induction strides generalizing old new with
  | nil =>
    cases written
    rw [put, overwrite_overwrite]
  | cons stride rest ih =>
    obtain ⟨-, child, inside, rfl⟩ := put_cons_eq_some_iff.1 written
    refine put_cons_eq_some_iff.2 ⟨Stride.clashes_store .., child, ?_, ?_⟩
    · rw [Stride.inner_store]
      exact ih inside
    · rw [Stride.container_store, Stride.store_store]

end Document

/-- A write that succeeds can be read back. A populated container in the slot of the reference stays
as it was, and otherwise the slot holds the value. The same write once more succeeds and changes
nothing, also where the value is itself a container. -/
theorem write_again (addressing : Addressing) {reference : String} {value document next : Json}
    (written : addressing.write reference value document = (next, .ok ())) :
    (∃ path, addressing.parse reference = .ok path ∧
      (∀ held, document.get? path.address = some held → Document.occupied held = true →
        next.get? path.address = some held) ∧
      ((∀ held, document.get? path.address = some held → Document.occupied held = false) →
        next.get? path.address = some value)) ∧
    addressing.write reference value next = (next, .ok ()) := by
  obtain ⟨path, read, put⟩ := (addressing.write_eq_ok_iff ..).1 written
  refine ⟨⟨path, read, ?_, ?_⟩, (addressing.write_eq_ok_iff ..).2 ⟨path, read, ?_⟩⟩
  · intro held there filled
    exact Path.get?_put_of_occupied put there filled
  · intro free
    have here := Path.get?_put_self put []
    rw [List.append_nil, Json.get?_nil, Document.overwrite_of_free] at here
    · exact here
    · cases there : document.get? path.address with
      | none => rfl
      | some held => exact free held there
  · exact Document.put_put put

/-- An empty object is written into an entry of a row that is not there yet, and a list stays where
a text is written over it. -/
theorem write_again_padded :
    (∃ next, Addressing.standard.write "pyWorkPage.L(2).G(k)" (.obj []) (.obj [("L", .str "x")]) =
        (next, .ok ()) ∧
      next.get? [.member "L", .item 1, .member "G", .member "k"] = some (.obj []) ∧
      Addressing.standard.write "pyWorkPage.L(2).G(k)" (.obj []) next = (next, .ok ())) ∧
    ∃ next, Addressing.standard.write "A" (.str "y") (.obj [("A", .arr [.null])]) =
        (next, .ok ()) ∧
      next.get? [.member "A"] = some (.arr [.null]) ∧
      Addressing.standard.write "A" (.str "y") next = (next, .ok ()) := by
  constructor
  · have written : Addressing.standard.write "pyWorkPage.L(2).G(k)" (.obj [])
        (.obj [("L", .str "x")]) =
          (.obj [("L", .arr [.obj [], .obj [("G", .obj [("k", .obj [])])]])], .ok ()) := rfl
    obtain ⟨⟨path, read, -, free⟩, again⟩ := write_again Addressing.standard written
    have parsed : Addressing.standard.parse "pyWorkPage.L(2).G(k)" =
        .ok ⟨[.listItem "L" 1], .groupEntry "G" "k"⟩ := rfl
    rw [parsed] at read
    cases read
    exact ⟨_, written, free (by intro held there; cases there), again⟩
  · have written : Addressing.standard.write "A" (.str "y") (.obj [("A", .arr [.null])]) =
        (.obj [("A", .arr [.null])], .ok ()) := rfl
    obtain ⟨⟨path, read, held, -⟩, again⟩ := write_again Addressing.standard written
    have parsed : Addressing.standard.parse "A" = .ok ⟨[], .page "A"⟩ := rfl
    rw [parsed] at read
    cases read
    exact ⟨_, written, held _ rfl rfl, again⟩

end CaseForm

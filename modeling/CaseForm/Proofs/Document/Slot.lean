import CaseForm.Proofs.Document.Sequence

/-!
What becomes of one slot while others are written.

Several paths may lead to one address. The values that are written there replace each other in
turn, until one of them is a populated container, which stays (`Document.settle`). Paths that lead
past the address make a container of what stands there, and that stays as well. All other writes
leave the slot alone, as long as none enters a list around it.

* `Document.get?_putAll`: what a slot holds that no path leads past;
* `Document.occupied_of_passes`: what it holds where some path does.
-/

namespace CaseForm

namespace Path

variable {path : Path} {address : Address} {value old new found : Json}

/-- The path leads to a place strictly inside of what stands at an address. -/
def Passes (path : Path) (address : Address) : Prop :=
  ∃ key rest, path.address = address ++ key :: rest

/-- A path that leads through an address ends there or passes it. -/
theorem eq_of_not_passes (ends : ¬ path.Passes address) (leads : address <+: path.address) :
    path.address = address := by
  obtain ⟨rest, eq⟩ := leads
  cases rest with
  | nil => rw [← eq, List.append_nil]
  | cons key rest => exact absurd ⟨key, rest, eq.symm⟩ ends

/-- What stands at an address is written over by a path that ends there, and stays otherwise. -/
theorem get?_put_of_not_passes (written : path.put value old = some new)
    (object : old.outline = .obj []) (there : old.get? address = some found)
    (ends : ¬ path.Passes address) (apart : ¬ path.Crosses address) :
    new.get? address =
      some (if path.address = address then Document.overwrite value found else found) := by
  by_cases same : path.address = address
  · subst same
    have self := get?_put_self written []
    rw [if_pos rfl]
    rwa [List.append_nil, there, Option.getD_some] at self
  · rw [if_neg same]
    refine get?_put_of_not_crosses written object there ?_ apart
    intro leads
    exact same (eq_of_not_passes ends leads)

/-- A populated container at an address may change inside, and stays one. -/
theorem occupied_put (written : path.put value old = some new) (object : old.outline = .obj [])
    (there : old.get? address = some found) (occupied : Document.occupied found = true)
    (apart : ¬ path.Crosses address) :
    ∃ container, new.get? address = some container ∧ Document.occupied container = true := by
  by_cases passes : path.Passes address
  · obtain ⟨key, rest, split⟩ := passes
    obtain ⟨container, here, -, filled⟩ := get?_put_before written split
    exact ⟨container, here, filled⟩
  · refine ⟨found, ?_, occupied⟩
    rw [get?_put_of_not_passes written object there passes apart, Document.overwrite,
      if_pos occupied, ite_self]

/-- An address stays free of populated containers if no path leads past it and no populated
container is written there or around it. -/
theorem free_put (written : path.put value old = some new)
    (free : Document.occupied ((old.get? address).getD .null) = false)
    (ends : ¬ path.Passes address)
    (plain : path.address <+: address → Document.occupied value = false) :
    Document.occupied ((new.get? address).getD .null) = false := by
  by_cases leads : address <+: path.address
  · have same := eq_of_not_passes ends leads
    have self := get?_put_self written []
    rw [List.append_nil, same] at self
    rw [self, Json.get?_nil, Option.getD_some, Document.overwrite_of_free value free]
    exact plain (same ▸ List.prefix_rfl)
  by_cases loses : path.Loses address
  · rw [get?_put_of_loses written loses]
    rfl
  have beside : new.get? address = (old.get? address).or (path.address.fills address) := by
    by_cases below : path.address <+: address
    · exact get?_put_of_free written (plain below) leads loses
    · exact get?_put_of_apart written leads below loses
  rw [beside]
  cases there : old.get? address with
  | some found => rwa [there] at free
  | none =>
    cases fills : path.address.fills address with
    | none => rfl
    | some filler =>
      obtain ⟨list, index, other, rest, -, -, -, rfl⟩ := Address.eq_of_fills fills
      rcases Document.padding_cases rest with eq | eq <;> rw [eq] <;> rfl

end Path

namespace Document

/-- What a slot holds after values were written there in turn. -/
def settle (address : Address) : Json → List (Path × Json) → Json
  | held, [] => held
  | held, (path, value) :: writes =>
    settle address (if path.address = address then overwrite value held else held) writes

variable {writes : List (Path × Json)} {address : Address} {old new found : Json}

theorem settle_of_ne (ne : ∀ write ∈ writes, write.1.address ≠ address) (held : Json) :
    settle address held writes = held := by
  induction writes with
  | nil => rfl
  | cons write writes ih =>
    obtain ⟨here, rest⟩ := List.forall_mem_cons.1 ne
    rw [settle, if_neg here]
    exact ih rest

theorem putAll_append (writes others : List (Path × Json)) (old : Json) :
    putAll (writes ++ others) old = (putAll writes old).bind (putAll others) := by
  induction writes generalizing old with
  | nil => rfl
  | cons write writes ih =>
    rw [List.cons_append, putAll, putAll, Option.bind_assoc]
    exact congrArg _ (funext ih)

/-- A slot that no path leads past holds what settles there. -/
theorem get?_putAll (written : putAll writes old = some new) (object : old.outline = .obj [])
    (there : old.get? address = some found) (ends : ∀ write ∈ writes, ¬ write.1.Passes address)
    (apart : ∀ write ∈ writes, ¬ write.1.Crosses address) :
    new.get? address = some (settle address found writes) := by
  induction writes generalizing old found with
  | nil =>
    cases written
    exact there
  | cons write writes ih =>
    obtain ⟨middle, first, rest⟩ := Option.bind_eq_some_iff.1 written
    obtain ⟨stops, ends⟩ := List.forall_mem_cons.1 ends
    obtain ⟨clear, apart⟩ := List.forall_mem_cons.1 apart
    have here := Path.get?_put_of_not_passes first object there stops clear
    exact ih rest (Path.outline_put first) here ends apart

theorem occupied_putAll (written : putAll writes old = some new) (object : old.outline = .obj [])
    (there : old.get? address = some found) (filled : occupied found = true)
    (apart : ∀ write ∈ writes, ¬ write.1.Crosses address) :
    ∃ container, new.get? address = some container ∧ occupied container = true := by
  induction writes generalizing old found with
  | nil =>
    cases written
    exact ⟨found, there, filled⟩
  | cons write writes ih =>
    obtain ⟨middle, first, rest⟩ := Option.bind_eq_some_iff.1 written
    obtain ⟨clear, apart⟩ := List.forall_mem_cons.1 apart
    obtain ⟨container, here, full⟩ := Path.occupied_put first object there filled clear
    exact ih rest (Path.outline_put first) here full apart

/-- A slot that some path leads past holds a populated container. -/
theorem occupied_of_passes (written : putAll writes old = some new)
    (passes : ∃ write ∈ writes, write.1.Passes address)
    (apart : ∀ write ∈ writes, ¬ write.1.Crosses address) :
    ∃ container, new.get? address = some container ∧ occupied container = true := by
  obtain ⟨write, mem, key, rest, split⟩ := passes
  obtain ⟨before, after, rfl⟩ := List.append_of_mem mem
  rw [putAll_append] at written
  obtain ⟨middle, -, written⟩ := Option.bind_eq_some_iff.1 written
  obtain ⟨next, here, later⟩ := Option.bind_eq_some_iff.1 written
  obtain ⟨container, there, -, filled⟩ := Path.get?_put_before here split
  refine occupied_putAll later (Path.outline_put here) there filled ?_
  intro other mem
  exact apart other (List.mem_append_right _ (List.mem_cons_of_mem _ mem))

/-- A slot is free of populated containers if no path leads past it and no container is written
there or around it. -/
theorem free_putAll (written : putAll writes old = some new)
    (free : occupied ((old.get? address).getD .null) = false)
    (ends : ∀ write ∈ writes, ¬ write.1.Passes address)
    (scalar : ∀ write ∈ writes, write.1.address <+: address → write.2.isScalar = true) :
    occupied ((new.get? address).getD .null) = false := by
  induction writes generalizing old with
  | nil =>
    cases written
    exact free
  | cons write writes ih =>
    obtain ⟨middle, first, rest⟩ := Option.bind_eq_some_iff.1 written
    obtain ⟨stops, ends⟩ := List.forall_mem_cons.1 ends
    obtain ⟨plain, scalar⟩ := List.forall_mem_cons.1 scalar
    exact ih rest (Path.free_put first free stops fun leads => not_occupied_of_isScalar (plain leads))
      ends scalar

/-- What stands in the slot of a write at the end of all writes is what settles on it from there
on. -/
theorem get?_putAll_of_write {after : List (Path × Json)} {path : Path}
    {value earlier next : Json} (here : path.put value earlier = some next)
    (last : putAll after next = some new)
    (ends : ∀ write ∈ after, ¬ write.1.Passes path.address)
    (apart : ∀ write ∈ after, ¬ write.1.Crosses path.address) :
    new.get? path.address = some (settle path.address
      (overwrite value ((earlier.get? path.address).getD .null)) after) := by
  have self := Path.get?_put_self here []
  rw [List.append_nil, Json.get?_nil] at self
  exact get?_putAll last (Path.outline_put here) self ends apart

end Document

end CaseForm

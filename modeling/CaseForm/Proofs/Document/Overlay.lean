import CaseForm.Proofs.Document.Order
import CaseForm.Proofs.Document.Slot

/-!
Two ways to write the same references.

A table may be written with later values after earlier ones for the same references, or with the
later values alone in another order. Either way the writes go along the same paths, so the documents
have their containers at the same places. What stands in a slot is decided by the writes to it and
through it (`Document.grow`), whatever is written elsewhere, unless a populated container is written
around it.

* `Document.get?_putAll_of_leads`: what a slot holds that some path leads to;
* `Document.outline_of_passes`, `Document.get?_putAll_of_gap`: what stands at the other places;
* `Document.eq_iff_grow`: so the two ways come to the same just if each slot on its own does.
-/

namespace CaseForm

namespace Document

/-- What comes of a value at an address when the writes to the address and through it are made. -/
def grow (address : Address) : Json → List (Path × Json) → Json
  | held, [] => held
  | held, (path, value) :: writes =>
    grow address
      (if address <+: path.address then
        (put value (path.strides.drop address.length) held).getD held
      else held)
      writes

variable {writes others : List (Path × Json)} {address place : Address}
  {old new document other : Json}

/-! ### Slots -/

/-- What stands at an address grows with the writes there and inside. -/
theorem get?_putAll_of_some {held : Json} (written : putAll writes old = some new)
    (object : old.outline = .obj []) (there : old.get? address = some held)
    (apart : ∀ write ∈ writes, ¬ write.1.Crosses address) :
    new.get? address = some (grow address held writes) := by
  induction writes generalizing old held with
  | nil =>
    cases written
    exact there
  | cons write writes ih =>
    obtain ⟨path, value⟩ := write
    obtain ⟨middle, first, rest⟩ := Option.bind_eq_some_iff.1 written
    obtain ⟨clear, apart⟩ := List.forall_mem_cons.1 apart
    rw [grow]
    refine ih rest (Path.outline_put first) ?_ apart
    by_cases leads : address <+: path.address
    · obtain ⟨found, here, inside⟩ := Path.get?_put_inside first leads
      rw [there, Option.getD_some] at inside
      rw [if_pos leads, inside, Option.getD_some, here]
    · rw [if_neg leads]
      exact Path.get?_put_of_not_crosses first object there leads clear

/-- A slot that some path leads to holds what grows there from nothing, if no populated container
is written around it. -/
theorem get?_putAll_of_leads (written : putAll writes old = some new)
    (object : old.outline = .obj []) (free : occupied ((old.get? address).getD .null) = false)
    (leads : ∃ write ∈ writes, address <+: write.1.address)
    (clear : ∀ write ∈ writes, write.1.address <+: address → write.1.address ≠ address →
      occupied write.2 = false)
    (apart : ∀ write ∈ writes, ¬ write.1.Crosses address) :
    new.get? address = some (grow address .null writes) := by
  induction writes generalizing old with
  | nil => simp at leads
  | cons write writes ih =>
    obtain ⟨path, value⟩ := write
    obtain ⟨middle, first, rest⟩ := Option.bind_eq_some_iff.1 written
    obtain ⟨plain, clear⟩ := List.forall_mem_cons.1 clear
    rw [grow]
    by_cases here : address <+: path.address
    · -- From the first write to the slot or through it, the slot holds something.
      obtain ⟨found, there, inside⟩ := Path.get?_put_inside first here
      rw [if_pos here, put_of_free free inside, Option.getD_some]
      exact get?_putAll_of_some rest (Path.outline_put first) there
        (List.forall_mem_cons.1 apart).2
    · rw [if_neg here]
      have later : ∃ write ∈ writes, address <+: write.1.address := by
        obtain ⟨write, mem, leads⟩ := leads
        rcases List.mem_cons.1 mem with rfl | mem
        · exact absurd leads here
        · exact ⟨write, mem, leads⟩
      refine ih rest (Path.outline_put first) ?_ later clear (List.forall_mem_cons.1 apart).2
      refine Path.free_put first free ?_ fun below => plain below ?_
      · rintro ⟨key, rest, split⟩
        exact here ⟨key :: rest, split.symm⟩
      · rintro same
        exact here (same ▸ List.prefix_rfl)

/-! ### Other places -/

/-- A populated container stays one and keeps its kind, if no path enters an array on the way to
something in it. -/
theorem outline_putAll {container : Json} {key : Key} {rest : Address}
    (written : putAll writes old = some new) (object : old.outline = .obj [])
    (there : old.get? place = some container) (kind : container.outline = key.holder)
    (filled : occupied container = true)
    (apart : ∀ write ∈ writes, ¬ write.1.Crosses (place ++ key :: rest)) :
    ∃ found, new.get? place = some found ∧ found.outline = key.holder := by
  induction writes generalizing old container with
  | nil =>
    cases written
    exact ⟨container, there, kind⟩
  | cons write writes ih =>
    obtain ⟨middle, first, last⟩ := Option.bind_eq_some_iff.1 written
    obtain ⟨clear, apart⟩ := List.forall_mem_cons.1 apart
    have root := Path.outline_put first
    by_cases passes : write.1.Passes place
    · obtain ⟨other, beyond, split⟩ := passes
      obtain ⟨found, here, same, full⟩ := Path.get?_put_before first split
      refine ih last root here (same.trans ?_) full apart
      cases other with
      | member name =>
        cases key with
        | member _ => rfl
        | item index =>
          -- An object is needed where an array stands, so the array is entered.
          have later : place ≠ [] := by
            rintro rfl
            cases there
            rw [object] at kind
            cases kind
          have enters := Path.enters_of_opens first ⟨name, beyond, split⟩ later there kind
          exact absurd ⟨place, index, rest, enters, rfl⟩ clear
      | item index =>
        cases key with
        | item _ => rfl
        | member name =>
          exact absurd kind (Path.outline_ne_of_lists first ⟨index, beyond, split⟩ there)
    · have outside : ¬ write.1.Crosses place := fun crosses => clear (crosses.append _)
      have stays := Path.get?_put_of_not_passes first object there passes outside
      rw [overwrite, if_pos filled, ite_self] at stays
      exact ih last root stays kind filled apart

/-- On the way of a path stands a container of the kind that the path needs, if no path enters an
array on its way. -/
theorem outline_of_passes {path : Path} {key : Key} {rest : Address}
    (written : putAll writes old = some new) (mem : path ∈ writes.map (·.1))
    (split : path.address = place ++ key :: rest)
    (apart : ∀ write ∈ writes, ¬ write.1.Crosses path.address) :
    ∃ found, new.get? place = some found ∧ found.outline = key.holder := by
  obtain ⟨⟨path, value⟩, member, rfl⟩ := List.mem_map.1 mem
  obtain ⟨before, after, rfl⟩ := List.append_of_mem member
  rw [putAll_append] at written
  obtain ⟨middle, -, written⟩ := Option.bind_eq_some_iff.1 written
  obtain ⟨next, here, later⟩ := Option.bind_eq_some_iff.1 written
  obtain ⟨container, there, kind, filled⟩ := Path.get?_put_before here split
  have clear : ∀ write ∈ after, ¬ write.1.Crosses (place ++ key :: rest) := by
    intro write also
    rw [← split]
    exact apart write (List.mem_append_right _ (List.mem_cons_of_mem _ also))
  exact outline_putAll later (Path.outline_put here) there kind filled clear

/-- Where a path needs an object, nothing stands in a list. -/
theorem get?_putAll_of_lost (written : putAll writes old = some new)
    (lost : Lost (writes.map (·.1)) address)
    (apart : ∀ path ∈ writes.map (·.1), ∀ second ∈ writes.map (·.1),
      ¬ path.Crosses second.address) : new.get? address = none := by
  obtain ⟨path, mem, place, index, rest, ⟨name, beyond, split⟩, rfl⟩ := lost
  obtain ⟨found, there, kind⟩ := outline_of_passes written mem split fun write also =>
    apart write.1 (List.mem_map_of_mem also) path mem
  rw [Json.get?_append, there, Option.bind_some]
  cases inside : found.get? (.item index :: rest) with
  | none => rfl
  | some inner =>
    rw [Json.outline_of_get?_item inside] at kind
    cases kind

/-- A sequence of writes leaves an object behind. -/
theorem outline_root (written : putAll writes old = some new) (object : old.outline = .obj []) :
    new.outline = .obj [] := by
  induction writes generalizing old with
  | nil =>
    cases written
    exact object
  | cons write writes ih =>
    obtain ⟨middle, first, rest⟩ := Option.bind_eq_some_iff.1 written
    exact ih rest (Path.outline_put first)

/-- What no path leads to fills up a list, if no populated container is written there. -/
theorem get?_putAll_of_gap {done : List Path} (written : putAll writes old = some new)
    (there : old.get? address = filling done address) (gap : Gap (writes.map (·.1)) address)
    (clear : ∀ write ∈ writes, write.1.address <+: address → occupied write.2 = false) :
    new.get? address = filling (done ++ writes.map (·.1)) address := by
  induction writes generalizing old done with
  | nil =>
    cases written
    rwa [List.map_nil, List.append_nil]
  | cons write writes ih =>
    obtain ⟨path, value⟩ := write
    obtain ⟨middle, first, rest⟩ := Option.bind_eq_some_iff.1 written
    obtain ⟨plain, clear⟩ := List.forall_mem_cons.1 clear
    obtain ⟨beside, kept⟩ := gap
    rw [List.map_cons, List.append_cons]
    refine ih rest ?_ ⟨?_, ?_⟩ clear
    · have besides : ¬ address <+: path.address := beside path List.mem_cons_self
      have keeps : ¬ path.Loses address := fun loses => kept ⟨path, List.mem_cons_self, loses⟩
      rw [filling_concat, ← there]
      by_cases below : path.address <+: address
      · exact Path.get?_put_of_free first (plain below) besides keeps
      · exact Path.get?_put_of_apart first besides below keeps
    · exact fun path mem => beside path (List.mem_cons_of_mem _ mem)
    · rintro ⟨path, mem, loses⟩
      exact kept ⟨path, List.mem_cons_of_mem _ mem, loses⟩

end Document

/-! ### The same paths -/

/-- The writes of one sequence are among those of another, and they go along all of its paths. -/
structure Selects (others writes : List (Path × Json)) : Prop where
  subset : ∀ write ∈ others, write ∈ writes
  paths : ∀ path ∈ writes.map (·.1), path ∈ others.map (·.1)

/-- A slot that is decided on its own: no populated container is written around it, and either no
path leads past it or a populated container is written there. -/
structure Decisive (writes : List (Path × Json)) (address : Address) : Prop where
  clear : ∀ write ∈ writes, write.1.address <+: address → write.1.address ≠ address →
    Document.occupied write.2 = false
  ends : (∀ write ∈ writes, ¬ write.1.Passes address) ∨
    ∃ write ∈ writes, write.1.address = address ∧ Document.occupied write.2 = true

/-- Two sequences of writes fill the gaps of lists with the same, save inside of populated
containers. -/
def FillSame (writes others : List (Path × Json)) : Prop :=
  ∀ address, Gap (writes.map (·.1)) address →
    (∀ write ∈ writes, write.1.address <+: address → Document.occupied write.2 = false) →
    filling (writes.map (·.1)) address = filling (others.map (·.1)) address

namespace Document

section Compare

variable {writes others : List (Path × Json)} {document other : Json}
  (written : putAll writes (.obj []) = some document)
  (also : putAll others (.obj []) = some other) (selects : Selects others writes)
  (apart : ∀ path ∈ writes.map (·.1), ∀ second ∈ writes.map (·.1), ¬ path.Crosses second.address)

include written also selects apart

/-- In a slot without a populated container around it each of the documents holds what grows
there. -/
theorem get?_of_clear {path : Path} (mem : path ∈ writes.map (·.1))
    (clear : ∀ write ∈ writes, write.1.address <+: path.address → write.1.address ≠ path.address →
      occupied write.2 = false) :
    document.get? path.address = some (grow path.address .null writes) ∧
      other.get? path.address = some (grow path.address .null others) := by
  have free : occupied (((Json.obj []).get? path.address).getD .null) = false := by
    cases path.address with
    | nil => rfl
    | cons key rest => cases key <;> rfl
  have leads {sequence : List (Path × Json)} (mem : path ∈ sequence.map (·.1)) :
      ∃ write ∈ sequence, path.address <+: write.1.address := by
    obtain ⟨write, here, rfl⟩ := List.mem_map.1 mem
    exact ⟨write, here, List.prefix_rfl⟩
  refine ⟨get?_putAll_of_leads written rfl free (leads mem) clear ?_,
    get?_putAll_of_leads also rfl free (leads (selects.paths path mem)) ?_ ?_⟩
  · exact fun write here => apart write.1 (List.mem_map_of_mem here) path mem
  · exact fun write here => clear write (selects.subset write here)
  · exact fun write here =>
      apart write.1 (List.mem_map_of_mem (selects.subset write here)) path mem

/-- The documents agree at a populated container that is written and inside, if they do so at the
outermost such container on the way. -/
theorem get?_eq_of_occupied {address : Address}
    (same : ∀ path ∈ writes.map (·.1), Decisive writes path.address →
      grow path.address .null writes = grow path.address .null others)
    {write : Path × Json} (mem : write ∈ writes) (leads : write.1.address <+: address)
    (filled : occupied write.2 = true) : document.get? address = other.get? address := by
  by_cases outer : ∃ around ∈ writes, around.1.address <+: write.1.address ∧
      around.1.address ≠ write.1.address ∧ occupied around.2 = true
  · obtain ⟨around, there, before, apart, full⟩ := outer
    have shorter : around.1.address.length < write.1.address.length := by
      refine Nat.lt_of_le_of_ne before.length_le fun equal => apart ?_
      exact before.eq_of_length equal
    exact get?_eq_of_occupied same there (before.trans leads) full
  · have clear : ∀ around ∈ writes, around.1.address <+: write.1.address →
        around.1.address ≠ write.1.address → occupied around.2 = false := by
      intro around there before apart
      rw [← Bool.not_eq_true]
      exact fun full => outer ⟨around, there, before, apart, full⟩
    have here := List.mem_map_of_mem (f := (·.1)) mem
    obtain ⟨first, second⟩ := get?_of_clear written also selects apart here clear
    obtain ⟨below, rfl⟩ := leads
    rw [Json.get?_append, Json.get?_append, first, second,
      same write.1 here ⟨clear, .inr ⟨write, mem, rfl, filled⟩⟩]
termination_by write.1.address.length

omit apart in
/-- In a gap outside of populated containers each of the documents holds what fills it. -/
theorem get?_of_gap {address : Address} (inside : address ≠ [])
    (gap : Gap (writes.map (·.1)) address)
    (plain : ∀ write ∈ writes, write.1.address <+: address → occupied write.2 = false) :
    document.get? address = filling (writes.map (·.1)) address ∧
      other.get? address = filling (others.map (·.1)) address := by
  have same : Gap (others.map (·.1)) address := by
    refine ⟨fun path mem => ?_, ?_⟩
    · obtain ⟨write, here, rfl⟩ := List.mem_map.1 mem
      exact gap.1 _ (List.mem_map_of_mem (selects.subset write here))
    · rintro ⟨path, mem, loses⟩
      obtain ⟨write, here, rfl⟩ := List.mem_map.1 mem
      exact gap.2 ⟨_, List.mem_map_of_mem (selects.subset write here), loses⟩
  have start : (Json.obj []).get? address = filling [] address := by
    match address, inside with
    | .member _ :: _, _ => rfl
    | .item _ :: _, _ => rfl
  exact ⟨get?_putAll_of_gap written start gap plain,
    get?_putAll_of_gap also start same fun write mem => plain write (selects.subset write mem)⟩

/-- The documents look alike if each slot that is decided on its own grows alike. -/
theorem alike_of_grow (alike : FillSame writes others)
    (same : ∀ path ∈ writes.map (·.1), Decisive writes path.address →
      grow path.address .null writes = grow path.address .null others) :
    Json.Alike document other := by
  intro address
  by_cases held : ∃ write ∈ writes, write.1.address <+: address ∧ occupied write.2 = true
  · obtain ⟨write, mem, leads, filled⟩ := held
    rw [get?_eq_of_occupied written also selects apart same mem leads filled]
  have plain : ∀ write ∈ writes, write.1.address <+: address → occupied write.2 = false := by
    intro write mem leads
    rw [← Bool.not_eq_true]
    exact fun filled => held ⟨write, mem, leads, filled⟩
  have within {path : Path} (mem : path ∈ others.map (·.1)) : path ∈ writes.map (·.1) := by
    obtain ⟨write, here, rfl⟩ := List.mem_map.1 mem
    exact List.mem_map_of_mem (selects.subset write here)
  by_cases passed : ∃ path ∈ writes.map (·.1), path.Passes address
  · obtain ⟨path, mem, key, rest, split⟩ := passed
    obtain ⟨first, here, kind⟩ := outline_of_passes written mem split fun write also =>
      apart write.1 (List.mem_map_of_mem also) path mem
    obtain ⟨second, there, similar⟩ := outline_of_passes also (selects.paths path mem) split
      fun write also => apart write.1 (within (List.mem_map_of_mem also)) path mem
    rw [here, there, Option.map_some, Option.map_some, kind, similar]
  by_cases ended : ∃ path ∈ writes.map (·.1), path.address = address
  · obtain ⟨path, mem, rfl⟩ := ended
    have clear := fun write here before (_ : write.1.address ≠ path.address) =>
      plain write here before
    obtain ⟨first, second⟩ := get?_of_clear written also selects apart mem clear
    have ends : ∀ write ∈ writes, ¬ write.1.Passes path.address := fun write here passes =>
      passed ⟨write.1, List.mem_map_of_mem here, passes⟩
    rw [first, second, same path mem ⟨clear, .inl ends⟩]
  by_cases lost : Lost (writes.map (·.1)) address
  · have gone : Lost (others.map (·.1)) address := by
      obtain ⟨path, mem, loses⟩ := lost
      exact ⟨path, selects.paths path mem, loses⟩
    rw [get?_putAll_of_lost written lost apart, get?_putAll_of_lost also gone fun path mem second
      there => apart path (within mem) second (within there)]
  have gap : Gap (writes.map (·.1)) address := by
    refine ⟨?_, lost⟩
    rintro path mem ⟨rest, split⟩
    cases rest with
    | nil => exact ended ⟨path, mem, by rw [← split, List.append_nil]⟩
    | cons key rest => exact passed ⟨path, mem, key, rest, split.symm⟩
  cases address with
  | nil => rw [Json.get?_nil, Json.get?_nil, Option.map_some, Option.map_some,
      outline_root written rfl, outline_root also rfl]
  | cons key rest =>
    obtain ⟨first, second⟩ := get?_of_gap written also selects (List.cons_ne_nil _ _) gap plain
    rw [first, second, alike _ gap plain]

/-- The documents are equal just if each slot that is decided on its own grows alike, and each gap
is filled with the same. -/
theorem eq_iff_grow (fine : ∀ write ∈ writes, write.2.Ordered) :
    document = other ↔
      (∀ path ∈ writes.map (·.1), Decisive writes path.address →
        grow path.address .null writes = grow path.address .null others) ∧
      FillSame writes others := by
  constructor
  · rintro rfl
    refine ⟨fun path mem decisive => ?_, fun address gap plain => ?_⟩
    · obtain ⟨first, second⟩ := get?_of_clear written also selects apart mem decisive.clear
      rw [first] at second
      exact Option.some.inj second
    · by_cases inside : address = []
      · rw [inside, filling_nil, filling_nil]
      · obtain ⟨first, second⟩ := get?_of_gap written also selects inside gap plain
        exact first.symm.trans second
  · rintro ⟨same, alike⟩
    have empty : (Json.obj []).Ordered := ⟨Entries.sorted_nil, trivial⟩
    refine Json.ext_get? (ordered_putAll written fine empty) ?_
      (alike_of_grow written also selects apart alike same)
    exact ordered_putAll also (fun write mem => fine write (selects.subset write mem)) empty

end Compare

end Document

end CaseForm

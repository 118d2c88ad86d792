import CaseForm.Proofs.Codec.Steady
import Mathlib.Data.List.Pairwise

/-!
Records made of components.

The slots of a record type hide how they reach into a record. A composition takes them apart: each
slot is a component with a codec of its own and a way to get its value out of a record and to put
one in, and the components together determine the record (`Composition`). Two things follow from the
components:

* a record is reread if each component of it is reread, or is left out (`Composition.rereads`): the
  members may come in any order, and what does not come is as in the blank record;
* each component of a record that was read is as in the blank record, or was itself read
  (`Composition.yields`). Hence a record type is steady if its components are
  (`Composition.steady`).
-/

namespace CaseForm

/-- A slot of a record, with the type of its values. -/
structure Component (α : Type) where
  Value : Type
  name : String
  required : Bool
  codec : Codec Value
  /-- The values that are left out of writing. -/
  omitted : Value → Bool
  get : α → Value
  put : Value → α → α

namespace Component

variable {α β : Type}

/-- The slot of a component. -/
def slot (component : Component α) : Slot α :=
  { Slot.omitting component.omitted component.name component.codec component.get component.put with
    required := component.required }

/-- The component of `Slot.always`. -/
@[simp] def always (name : String) (codec : Codec β) (get : α → β) (put : β → α → α) :
    Component α := ⟨β, name, false, codec, fun _ => false, get, put⟩

/-- The component of `Slot.mandatory`. -/
@[simp] def mandatory (name : String) (codec : Codec β) (get : α → β) (put : β → α → α) :
    Component α := ⟨β, name, true, codec, fun _ => false, get, put⟩

/-- The component of `Slot.optional`. -/
@[simp] def optional (name : String) (codec : Codec β) (get : α → Option β)
    (put : Option β → α → α) : Component α :=
  ⟨Option β, name, false, codec.option, Option.isNone, get, put⟩

/-- The component of `Slot.unlessEmpty`. -/
@[simp] def unlessEmpty (name : String) (codec : Codec β) (get : α → List β)
    (put : List β → α → α) : Component α :=
  ⟨List β, name, false, codec.list, List.isEmpty, get, put⟩

/-- The component of `Slot.unlessNull`. -/
@[simp] def unlessNull (name : String) (get : α → Json) (put : Json → α → α) : Component α :=
  ⟨Json, name, false, .value, Json.isNull, get, put⟩

/-- Putting a value into one of the components leaves the other as it is. -/
def Apart (a b : Component α) : Prop :=
  (∀ value record, a.get (b.put value record) = a.get record) ∧
    ∀ value record, b.get (a.put value record) = b.get record

instance : Std.Symm (Apart (α := α)) := ⟨fun _ _ apart => ⟨apart.2, apart.1⟩⟩

/-- The component of a record is left out of writing, or it is reread. -/
def Settled (component : Component α) (value : component.Value) : Prop :=
  component.omitted value = true ∨ component.codec.Rereads value

theorem store_eq_ok_iff {component : Component α} {written : Syntax} {record next : α} :
    component.slot.store written record = .ok next ↔
      ∃ value, component.codec.read written = .ok value ∧ component.put value record = next := by
  simp only [slot, Slot.omitting, Codec.bind_eq_ok_iff, pure, Except.pure, Except.ok.injEq]

/-- Of components with different names one is found by its name. -/
theorem find?_slot {components : List (Component α)} (names : (components.map (·.name)).Nodup)
    {component : Component α} (mem : component ∈ components) :
    ((components.map slot).find? fun slot => slot.name == component.name) =
      some component.slot := by
  induction components with
  | nil => cases mem
  | cons first components ih =>
    rw [List.map_cons, List.nodup_cons] at names
    rw [List.map_cons, List.find?_cons]
    rcases List.mem_cons.1 mem with rfl | mem
    · have same : (component.slot.name == component.name) = true := beq_self_eq_true component.name
      rw [same]
    · have other : (first.slot.name == component.name) = false := by
        refine beq_eq_false_iff_ne.2 fun same => names.1 ?_
        have named : first.name = component.name := same
        rw [named]
        exact List.mem_map_of_mem mem
      rw [other]
      exact ih names.2 mem

end Component

@[simp] theorem Json.isNull_iff {value : Json} : value.isNull = true ↔ value = .null := by
  cases value <;> simp [Json.isNull]

/-- The components of a record type, one for each slot. All but what is left out follows from the
shape of the slots. -/
structure Composition {α : Type} (record : Record α) where
  components : List (Component α)
  slots_eq : record.slots = components.map Component.slot := by rfl
  names : (components.map (·.name)).Nodup := by simp
  get_put : ∀ c ∈ components, ∀ value r, c.get (c.put value r) = value := by simp
  apart : components.Pairwise Component.Apart := by simp [Component.Apart]
  ext : ∀ a b, (∀ c ∈ components, c.get a = c.get b) → a = b := by
    rintro ⟨⟩ ⟨⟩
    simp +contextual
  gives : ∀ c ∈ components, c.required = true → ∀ value, c.omitted value = false := by simp
  /-- What is left out of writing is as in the blank record. -/
  omits : ∀ c ∈ components, ∀ value, c.omitted value = true → value = c.get record.blank

namespace Slot

variable {α β : Type} {holds : α → Prop}

/-- Storing into a record that has the property leaves it with the property. -/
def Keeps (holds : α → Prop) (slot : Slot α) : Prop :=
  ∀ written r next, holds r → slot.store written r = .ok next → holds next

theorem keeps_omitting {omitted : β → Bool} {name : String} {codec : Codec β} {get : α → β}
    {put : β → α → α} {given : β → Prop} (yields : codec.Yields given)
    (keeps : ∀ value r, given value → holds r → holds (put value r)) :
    (omitting omitted name codec get put).Keeps holds := by
  intro written r next now stored
  obtain ⟨value, read, eq⟩ := Codec.bind_eq_ok_iff.1 stored
  cases eq
  exact keeps value r (yields written value read) now

/-- Whatever is read for a slot that the property does not look at. -/
theorem keeps_of_put {omitted : β → Bool} {name : String} {codec : Codec β} {get : α → β}
    {put : β → α → α} (keeps : ∀ value r, holds r → holds (put value r)) :
    (omitting omitted name codec get put).Keeps holds :=
  keeps_omitting (Codec.yields_of_forall fun _ => trivial) fun value r _ now => keeps value r now

end Slot

namespace Record

variable {α : Type} {record : Record α}

/-- The keys that are written are names of slots, in their order. -/
theorem sublist_keys (record : Record α) (value : α) :
    ((record.members value).map Prod.fst).Sublist (record.slots.map Slot.name) := by
  unfold members
  induction record.slots with
  | nil => exact .slnil
  | cons slot slots ih =>
    rw [List.filterMap_cons, List.map_cons]
    cases slot.member? value with
    | none => exact ih.cons slot.name
    | some json => exact ih.cons_cons slot.name

section Yields

variable {holds : α → Prop} (keeps : ∀ slot ∈ record.slots, slot.Keeps holds)

include keeps

theorem readMembers_keeps {given : List String} {soFar value : α}
    {texts : List (Option String × Syntax)} (now : holds soFar)
    (read : record.readMembers given soFar texts = .ok value) : holds value := by
  induction texts generalizing given soFar with
  | nil =>
    rw [readMembers] at read
    split at read
    · cases read
      exact now
    · cases read
  | cons text texts ih =>
    obtain ⟨key, written⟩ := text
    cases key with
    | none => cases read
    | some key =>
      rw [readMembers] at read
      split at read
      · split at read
        · exact ih now read
        · cases read
      · next slot found =>
        split at read
        · cases read
        · obtain ⟨next, stored, read⟩ := Codec.bind_eq_ok_iff.1 read
          have mem := List.mem_of_find?_eq_some found
          exact ih (keeps slot mem written soFar next now stored) read

omit keeps in
theorem readItems_keeps {slots : List (Slot α)} (keeps : ∀ slot ∈ slots, slot.Keeps holds)
    {soFar value : α} {texts : List Syntax} (now : holds soFar)
    (read : readItems soFar slots texts = .ok value) : holds value := by
  induction texts generalizing slots soFar with
  | nil =>
    rw [readItems] at read
    split at read
    · cases read
    · cases read
      exact now
  | cons text texts ih =>
    cases slots with
    | nil => cases read
    | cons slot slots =>
      rw [readItems] at read
      obtain ⟨next, stored, read⟩ := Codec.bind_eq_ok_iff.1 read
      obtain ⟨here, keeps⟩ := List.forall_mem_cons.1 keeps
      exact ih keeps (here text soFar next now stored) read

/-- What the blank record has and every slot keeps, a record has that was read. -/
theorem yields (blank : holds record.blank) : record.codec.Yields holds := by
  intro written value read
  cases written with
  | obj texts => exact readMembers_keeps keeps blank read
  | arr texts => exact readItems_keeps keeps blank read
  | _ => cases read

end Yields

@[simp] theorem solid_codec (record : Record α) : record.codec.Solid := nofun

end Record

namespace Composition

variable {α : Type} {record : Record α} (composition : Composition record)
  {c d : Component α} {value : α}

include composition

theorem eq_of_name_eq (mem : c ∈ composition.components) (also : d ∈ composition.components)
    (same : c.name = d.name) : c = d :=
  List.inj_on_of_nodup_map composition.names mem also same

theorem get_put_of_ne (mem : c ∈ composition.components) (also : d ∈ composition.components)
    (ne : c ≠ d) (held : d.Value) (r : α) : c.get (d.put held r) = c.get r :=
  (composition.apart.forall mem also ne).1 held r

theorem find?_slot (mem : c ∈ composition.components) :
    (record.slots.find? fun slot => slot.name == c.name) = some c.slot := by
  rw [composition.slots_eq]
  exact Component.find?_slot composition.names mem

theorem slot_names : record.slots.map Slot.name = composition.components.map (·.name) := by
  rw [composition.slots_eq, List.map_map]
  rfl

/-! ### Reading -/

/-- What holds of the components of the blank record and of what is read for them holds of the
components of a record that is read. -/
theorem yields (holds : (c : Component α) → c.Value → Prop)
    (blank : ∀ c ∈ composition.components, holds c (c.get record.blank))
    (inner : ∀ c ∈ composition.components, c.codec.Yields (holds c)) :
    record.codec.Yields fun value => ∀ c ∈ composition.components, holds c (c.get value) := by
  refine Record.yields ?_ blank
  rw [composition.slots_eq, List.forall_mem_map]
  intro d also written r next now stored c mem
  obtain ⟨held, read, rfl⟩ := Component.store_eq_ok_iff.1 stored
  by_cases same : c = d
  · subst same
    rw [composition.get_put c mem]
    exact inner c mem written held read
  · rw [composition.get_put_of_ne mem also same]
    exact now c mem

/-! ### Writing and reading again -/

/-- What is written for a record are the components that are not left out. -/
theorem mem_members_iff {member : String × Json} :
    member ∈ record.members value ↔
      ∃ c ∈ composition.components, c.omitted (c.get value) = false ∧
        (c.name, c.codec.write (c.get value)) = member := by
  rw [Record.members, composition.slots_eq, List.filterMap_map, List.mem_filterMap]
  refine exists_congr fun c => and_congr_right fun _ => ?_
  simp only [Function.comp, Component.slot, Slot.omitting]
  cases c.omitted (c.get value) <;> simp

theorem nodup_keys (value : α) : ((record.members value).map Prod.fst).Nodup := by
  refine (record.sublist_keys value).nodup ?_
  rw [composition.slot_names]
  exact composition.names

theorem satisfied_of_forall {given : List String}
    (all : ∀ c ∈ composition.components, c.required = true → c.name ∈ given) :
    record.satisfied given = true := by
  rw [Record.satisfied, composition.slots_eq, List.all_map, List.all_eq_true]
  intro c mem
  change (!c.required || given.contains c.name) = true
  cases needed : c.required with
  | false => rfl
  | true =>
    rw [List.contains_iff_mem.2 (all c mem needed)]
    rfl

/-- Members that are spelled for components of a record are read into what makes up the rest of
it. -/
theorem readMembers_eq_ok {order : List (String × Json)}
    {texts : List (Option String × Syntax)} (spelled : List.Forall₂ Json.SpellsMember order texts)
    (written : ∀ member ∈ order, ∃ c ∈ composition.components,
      c.codec.Rereads (c.get value) ∧ (c.name, c.codec.write (c.get value)) = member)
    (distinct : (order.map Prod.fst).Nodup) {given : List String}
    (fresh : ∀ member ∈ order, member.1 ∉ given) {soFar : α}
    (rest : ∀ c ∈ composition.components,
      c.get soFar = c.get value ∨ c.name ∈ order.map Prod.fst)
    (required : ∀ c ∈ composition.components, c.required = true →
      c.name ∈ given ∨ c.name ∈ order.map Prod.fst) :
    record.readMembers given soFar texts = .ok value := by
  -- Along the text: what was read so far and what is still to come make up the record.
  induction spelled generalizing given soFar with
  | nil =>
    have satisfied : record.satisfied given = true :=
      composition.satisfied_of_forall fun c mem needed =>
        (required c mem needed).resolve_right nofun
    have complete : soFar = value := by
      refine composition.ext soFar value fun c mem => ?_
      exact (rest c mem).resolve_right nofun
    rw [Record.readMembers, satisfied, if_pos rfl, complete]
  | @cons member text order texts here _ ih =>
    obtain ⟨key, source⟩ := text
    obtain ⟨⟨c, mem, rereads, rfl⟩, others⟩ := List.forall_mem_cons.1 written
    obtain ⟨named, spelled⟩ := here
    cases named
    rw [List.map_cons, List.nodup_cons] at distinct
    obtain ⟨unused, fresh⟩ := List.forall_mem_cons.1 fresh
    have stored : c.slot.store source soFar = .ok (c.put (c.get value) soFar) :=
      Component.store_eq_ok_iff.2 ⟨c.get value, rereads.read source spelled, rfl⟩
    rw [Record.readMembers, composition.find?_slot mem]
    simp only [List.contains_iff_mem, unused, if_false, stored]
    refine ih others distinct.2 ?_ ?_ ?_
    · intro member there again
      rcases List.mem_cons.1 again with same | again
      · have later := List.mem_map_of_mem (f := Prod.fst) there
        rw [same] at later
        exact distinct.1 later
      · exact fresh member there again
    · intro d also
      -- The component that was just read has its value; the others stay as they were.
      by_cases same : d = c
      · subst same
        exact .inl (composition.get_put d mem _ soFar)
      · rw [composition.get_put_of_ne also mem same]
        refine (rest d also).imp_right fun later => ?_
        refine (List.mem_cons.1 later).resolve_left fun name => same ?_
        exact composition.eq_of_name_eq also mem name
    · intro d also needed
      rcases required d also needed with before | later
      · exact .inl (List.mem_cons_of_mem _ before)
      · rcases List.mem_cons.1 later with name | later
        · exact .inl (List.mem_cons.2 (.inl name))
        · exact .inr later

/-- A record is reread if its components are, but for those that are left out. -/
theorem rereads (settled : ∀ c ∈ composition.components, c.Settled (c.get value)) :
    record.codec.Rereads value := by
  have each (c : Component α) (mem : c ∈ composition.components)
      (kept : c.omitted (c.get value) = false) : c.codec.Rereads (c.get value) :=
    (settled c mem).resolve_left (by simp [kept])
  constructor
  case distinct =>
    refine ⟨composition.nodup_keys value, Json.distinctMembers_iff.2 fun member mem => ?_⟩
    obtain ⟨c, there, kept, rfl⟩ := composition.mem_members_iff.1 mem
    exact (each c there kept).distinct
  case read =>
    intro text spelled
    obtain ⟨middle, texts, rfl, inner, perm⟩ := Json.spells_obj_iff.1 spelled
    obtain ⟨order, same, inner⟩ := Json.exists_perm_of_forall₂ inner perm
    have keys : ((record.members value).map Prod.fst).Perm (order.map Prod.fst) :=
      same.map Prod.fst
    have named (c : Component α) (mem : c ∈ composition.components)
        (kept : c.omitted (c.get value) = false) : c.name ∈ order.map Prod.fst := by
      rw [← keys.mem_iff]
      exact List.mem_map_of_mem (composition.mem_members_iff.2 ⟨c, mem, kept, rfl⟩)
    refine composition.readMembers_eq_ok inner ?_ ?_ (fun _ _ => List.not_mem_nil) ?_ ?_
    · intro member mem
      obtain ⟨c, there, kept, eq⟩ := composition.mem_members_iff.1 (same.mem_iff.2 mem)
      exact ⟨c, there, each c there kept, eq⟩
    · exact keys.nodup_iff.1 (composition.nodup_keys value)
    · intro c mem
      cases left : c.omitted (c.get value) with
      | true => exact .inl (composition.omits c mem _ left).symm
      | false => exact .inr (named c mem left)
    · exact fun c mem needed => .inr (named c mem (composition.gives c mem needed _))

/-- A record type whose components are steady is steady. -/
theorem steady (blank : ∀ c ∈ composition.components, c.Settled (c.get record.blank))
    (inner : ∀ c ∈ composition.components, c.codec.Steady) : record.codec.Steady := by
  have yields := composition.yields (fun c held => c.Settled held) blank
    fun c mem => (inner c mem).imp fun _ rereads => .inr rereads
  exact yields.imp fun _ settled => composition.rereads settled

end Composition

end CaseForm

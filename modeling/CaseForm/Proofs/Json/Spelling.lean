import CaseForm.Proofs.Document.Effect
import CaseForm.Proofs.Json.Same
import Mathlib.Data.List.Nodup
import Mathlib.Data.List.Perm.Basic

/-!
Spellings of a value.

A text spells a value if it differs from it in the order of members at most, at any depth
(`Json.Spells`). So a value that is printed member by member and one whose members are put into key
order first are two spellings of the same (`Json.spells_ofJson`, `Json.spells_arrange`), if no
object has two members of one key. A text that spells a value in key order is read as that value,
whatever the order of the text (`Json.value?_of_spells`).
-/

namespace CaseForm

namespace Json

/-! ### Objects without a key given twice -/

mutual

/-- No object at any depth has two members of one key. -/
def Distinct : Json → Prop
  | .arr items => DistinctItems items
  | .obj members => (members.map Prod.fst).Nodup ∧ DistinctMembers members
  | _ => True

/-- Every value of a list is distinct. -/
def DistinctItems : List Json → Prop
  | [] => True
  | item :: items => item.Distinct ∧ DistinctItems items

/-- The value of every member is distinct. -/
def DistinctMembers : List (String × Json) → Prop
  | [] => True
  | (_, value) :: members => value.Distinct ∧ DistinctMembers members

end

theorem distinctItems_iff {items : List Json} :
    DistinctItems items ↔ ∀ item ∈ items, item.Distinct := by
  induction items with
  | nil => simp [DistinctItems]
  | cons item items ih => simp [DistinctItems, ih]

theorem distinctMembers_iff {members : List (String × Json)} :
    DistinctMembers members ↔ ∀ member ∈ members, member.2.Distinct := by
  induction members with
  | nil => simp [DistinctMembers]
  | cons member members ih => simp [DistinctMembers, ih]

theorem nodup_of_sorted {members : Entries Json} (sorted : members.Sorted) :
    (members.map Prod.fst).Nodup := by
  refine List.pairwise_map.2 (List.Pairwise.imp ?_ sorted)
  intro a b before same
  exact String.lt_irrefl _ (same ▸ before)

/-- In key order no key stands twice. -/
theorem Ordered.distinct {value : Json} (ordered : value.Ordered) : value.Distinct := by
  match value with
  | .arr items =>
    rw [Distinct, distinctItems_iff]
    exact fun item mem => (orderedItems_iff.1 ordered item mem).distinct
  | .obj members =>
    refine ⟨nodup_of_sorted ordered.1, distinctMembers_iff.2 fun member mem => ?_⟩
    exact (orderedMembers_iff.1 ordered.2 member mem).distinct
  | .null | .bool _ | .num _ | .str _ => trivial
termination_by sizeOf value
decreasing_by
  · have := List.sizeOf_lt_of_mem mem
    simp only [Json.arr.sizeOf_spec]
    omega
  · have := List.sizeOf_lt_of_mem mem
    obtain ⟨key, inner⟩ := member
    simp only [Json.obj.sizeOf_spec, Prod.mk.sizeOf_spec] at this ⊢
    omega

/-! ### Spelling -/

mutual

/-- The text is like the value, but for the order of members at any depth. -/
def Spells : Json → Syntax → Prop
  | .null, .null => True
  | .bool value, .bool spelled => value = spelled
  | .num value, .num spelled => value = spelled
  | .str value, .str spelled => value = spelled
  | .arr items, .arr spelled => SpellsItems items spelled
  | .obj members, .obj spelled => ∃ order, SpellsMembers members order ∧ order.Perm spelled
  | _, _ => False

/-- The texts spell the values, item by item. -/
def SpellsItems : List Json → List Syntax → Prop
  | [], [] => True
  | item :: items, text :: texts => item.Spells text ∧ SpellsItems items texts
  | _, _ => False

/-- The texts spell the members, key and value of each. -/
def SpellsMembers : List (String × Json) → List (Option String × Syntax) → Prop
  | [], [] => True
  | (key, value) :: members, (spelled, text) :: texts =>
    (spelled = some key ∧ value.Spells text) ∧ SpellsMembers members texts
  | _, _ => False

end

/-- The text spells the member, its key and its value. -/
def SpellsMember (member : String × Json) (text : Option String × Syntax) : Prop :=
  text.1 = some member.1 ∧ member.2.Spells text.2

theorem spellsItems_iff {items : List Json} {texts : List Syntax} :
    SpellsItems items texts ↔ List.Forall₂ Spells items texts := by
  induction items generalizing texts with
  | nil => cases texts <;> simp [SpellsItems]
  | cons item items ih => cases texts <;> simp [SpellsItems, ih]

theorem spellsMembers_iff {members : List (String × Json)}
    {texts : List (Option String × Syntax)} :
    SpellsMembers members texts ↔ List.Forall₂ SpellsMember members texts := by
  induction members generalizing texts with
  | nil => cases texts <;> simp [SpellsMembers]
  | cons member members ih => cases texts <;> simp [SpellsMembers, SpellsMember, ih]

theorem spells_null_iff {text : Syntax} : Spells .null text ↔ text = .null := by
  cases text <;> simp [Spells]

theorem spells_bool_iff {value : Bool} {text : Syntax} :
    Spells (.bool value) text ↔ text = .bool value := by
  cases text <;> simp [Spells, eq_comm]

theorem spells_num_iff {value : Number} {text : Syntax} :
    Spells (.num value) text ↔ text = .num value := by
  cases text <;> simp [Spells, eq_comm]

theorem spells_str_iff {value : String} {text : Syntax} :
    Spells (.str value) text ↔ text = .str value := by
  cases text <;> simp [Spells, eq_comm]

theorem spells_arr_iff {items : List Json} {text : Syntax} :
    Spells (.arr items) text ↔ ∃ texts, text = .arr texts ∧ List.Forall₂ Spells items texts := by
  cases text <;> simp [Spells, spellsItems_iff]

/-- What is related to a list in another order is related to it in another order of the list. -/
theorem exists_perm_of_forall₂ {α β : Type} {r : α → β → Prop} {first : List α}
    {middle last : List β} (rel : List.Forall₂ r first middle) (perm : middle.Perm last) :
    ∃ order, first.Perm order ∧ List.Forall₂ r order last := by
  have swapped : Relation.Comp (List.Forall₂ r) List.Perm first last := ⟨middle, rel, perm⟩
  rwa [List.forall₂_comp_perm_eq_perm_comp_forall₂] at swapped

theorem spells_obj_iff {members : List (String × Json)} {text : Syntax} :
    Spells (.obj members) text ↔ ∃ order texts, text = .obj texts ∧
      List.Forall₂ SpellsMember members order ∧ order.Perm texts := by
  cases text <;> simp [Spells, spellsMembers_iff]

end Json

namespace Syntax

theorem ofMembers_eq_map (members : List (String × Json)) :
    ofMembers members = members.map fun member => (some member.1, ofJson member.2) := by
  induction members with
  | nil => rfl
  | cons member members ih => rw [ofMembers, ih, List.map_cons]

theorem itemValues?_of_forall₂ {values : List Json} {texts : List Syntax}
    (read : List.Forall₂ (fun value text => text.value? = some value) values texts) :
    itemValues? texts = some values := by
  induction read with
  | nil => rfl
  | cons here _ ih =>
    rw [itemValues?, here, ih]
    rfl

/-- Members that have values are written into a table one after another. -/
theorem memberValues?_of_forall₂ {members : List (String × Json)}
    {texts : List (Option String × Syntax)}
    (read : List.Forall₂ (fun member text => text.1 = some member.1 ∧
      text.2.value? = some member.2) members texts) (before : Table Json) :
    memberValues? before.entries texts = some (before.extend members).entries := by
  induction read generalizing before with
  | nil => rfl
  | @cons member text _ _ here _ ih =>
    obtain ⟨key, source⟩ := text
    obtain ⟨named, held⟩ := here
    cases named
    simp only [memberValues?, held, Option.bind_eq_bind, Option.bind_some, Table.extend_cons]
    exact ih (before.insert member.1 member.2)

end Syntax

namespace Table

/-- A table of pairs that are in key order in another order has them in key order. -/
theorem entries_ofList_of_perm {α : Type} {entries : Entries α} (sorted : entries.Sorted)
    {pairs : List (String × α)} (perm : entries.Perm pairs) : (ofList pairs).entries = entries := by
  refine Entries.eq_of_get?_eq (ofList pairs).sorted sorted fun key => Option.ext fun value => ?_
  have single (a b : α) (first : (key, a) ∈ pairs) (second : (key, b) ∈ pairs) : a = b := by
    rw [← perm.mem_iff, ← Entries.get?_eq_some_iff sorted] at first second
    rw [first] at second
    exact Option.some.inj second
  rw [Entries.get?_eq_some_iff sorted, perm.mem_iff]
  exact get?_ofList_eq_some_iff single

/-- A table of pairs with different keys has just these. -/
theorem perm_entries_ofList {α : Type} {pairs : List (String × α)}
    (distinct : (pairs.map Prod.fst).Nodup) : pairs.Perm (ofList pairs).entries := by
  have sorted := (ofList pairs).sorted
  have nodup : (ofList pairs).entries.Nodup := by
    refine List.Pairwise.imp ?_ sorted
    rintro a b before rfl
    exact String.lt_irrefl _ before
  refine (List.perm_ext_iff_of_nodup (.of_map Prod.fst distinct) nodup).2 fun ⟨key, value⟩ => ?_
  rw [mem_entries_iff, get?_ofList_eq_some_iff]
  intro a b first second
  exact congrArg Prod.snd (List.inj_on_of_nodup_map distinct first second rfl)

end Table

namespace Json

mutual

/-- A text that spells a value in key order is read as the value. -/
theorem value?_of_spells {value : Json} {text : Syntax} (ordered : value.Ordered)
    (spelled : value.Spells text) : text.value? = some value := by
  match value with
  | .null =>
    rw [spells_null_iff.1 spelled]
    rfl
  | .bool _ =>
    rw [spells_bool_iff.1 spelled]
    rfl
  | .num _ =>
    rw [spells_num_iff.1 spelled]
    rfl
  | .str _ =>
    rw [spells_str_iff.1 spelled]
    rfl
  | .arr items =>
    obtain ⟨texts, rfl, inner⟩ := spells_arr_iff.1 spelled
    rw [Syntax.value?, Syntax.itemValues?_of_forall₂ (values?_of_spells ordered inner)]
    rfl
  | .obj members =>
    obtain ⟨middle, texts, rfl, inner, perm⟩ := spells_obj_iff.1 spelled
    obtain ⟨order, same, read⟩ :=
      exists_perm_of_forall₂ (memberValues?_of_spells ordered.2 inner) perm
    have written := Syntax.memberValues?_of_forall₂ read .empty
    rw [← Table.ofList, Table.entries_ofList_of_perm ordered.1 same] at written
    rw [Syntax.value?]
    exact congrArg (Option.map Json.obj) written

theorem values?_of_spells {items : List Json} {texts : List Syntax} (ordered : OrderedItems items)
    (spelled : List.Forall₂ Spells items texts) :
    List.Forall₂ (fun value text => text.value? = some value) items texts := by
  match items, spelled with
  | [], .nil => exact .nil
  | item :: items, .cons here later =>
    exact .cons (value?_of_spells ordered.1 here) (values?_of_spells ordered.2 later)

theorem memberValues?_of_spells {members : List (String × Json)}
    {texts : List (Option String × Syntax)} (ordered : OrderedMembers members)
    (spelled : List.Forall₂ SpellsMember members texts) :
    List.Forall₂ (fun member text => text.1 = some member.1 ∧ text.2.value? = some member.2)
      members texts := by
  match members, spelled with
  | [], .nil => exact .nil
  | (key, value) :: members, .cons here later =>
    exact .cons ⟨here.1, value?_of_spells ordered.1 here.2⟩
      (memberValues?_of_spells ordered.2 later)

end

/-! ### Two spellings -/

mutual

/-- The value as it stands in a text, member by member. -/
theorem spells_ofJson (value : Json) : value.Spells (.ofJson value) := by
  match value with
  | .null | .bool _ | .num _ | .str _ => simp [Syntax.ofJson, Spells]
  | .arr items => exact spells_arr_iff.2 ⟨_, rfl, spells_ofItems items⟩
  | .obj members => exact spells_obj_iff.2 ⟨_, _, rfl, spells_ofMembers members, .refl _⟩

theorem spells_ofItems (items : List Json) :
    List.Forall₂ Spells items (Syntax.ofItems items) := by
  match items with
  | [] => exact .nil
  | item :: items => exact .cons (spells_ofJson item) (spells_ofItems items)

theorem spells_ofMembers (members : List (String × Json)) :
    List.Forall₂ SpellsMember members (Syntax.ofMembers members) := by
  match members with
  | [] => exact .nil
  | (key, value) :: members => exact .cons ⟨rfl, spells_ofJson value⟩ (spells_ofMembers members)

end

mutual

/-- The value with the members of every object in key order; of two with one key the later
counts. -/
def arrange : Json → Json
  | .arr items => .arr (arrangeItems items)
  | .obj members => .obj (Table.ofList (arrangeMembers members)).entries
  | other => other

/-- Arranges each value of a list. -/
def arrangeItems : List Json → List Json
  | [] => []
  | item :: items => item.arrange :: arrangeItems items

/-- Arranges the value of each member. -/
def arrangeMembers : List (String × Json) → List (String × Json)
  | [] => []
  | (key, value) :: members => (key, value.arrange) :: arrangeMembers members

end

mutual

/-- The value that the text of a value stands for. -/
theorem value?_ofJson (value : Json) : (Syntax.ofJson value).value? = some value.arrange := by
  match value with
  | .null | .bool _ | .num _ | .str _ => rfl
  | .arr items =>
    rw [Syntax.ofJson, Syntax.value?, Syntax.itemValues?_of_forall₂ (values?_ofItems items)]
    rfl
  | .obj members =>
    have written := Syntax.memberValues?_of_forall₂ (values?_ofMembers members) .empty
    rw [Syntax.ofJson, Syntax.value?]
    exact congrArg (Option.map Json.obj) written

theorem values?_ofItems (items : List Json) :
    List.Forall₂ (fun value text => text.value? = some value) (arrangeItems items)
      (Syntax.ofItems items) := by
  match items with
  | [] => exact .nil
  | item :: items => exact .cons (value?_ofJson item) (values?_ofItems items)

theorem values?_ofMembers (members : List (String × Json)) :
    List.Forall₂ (fun member text => text.1 = some member.1 ∧ text.2.value? = some member.2)
      (arrangeMembers members) (Syntax.ofMembers members) := by
  match members with
  | [] => exact .nil
  | (key, value) :: members =>
    exact .cons ⟨rfl, value?_ofJson value⟩ (values?_ofMembers members)

end

theorem keys_arrangeMembers (members : List (String × Json)) :
    (arrangeMembers members).map Prod.fst = members.map Prod.fst := by
  induction members with
  | nil => rfl
  | cons member members ih => rw [arrangeMembers, List.map_cons, List.map_cons, ih]

mutual

/-- A value in key order spells the value that it was arranged from. -/
theorem spells_arrange {value : Json} (distinct : value.Distinct) :
    value.Spells (.ofJson value.arrange) := by
  match value with
  | .null | .bool _ | .num _ | .str _ => simp [arrange, Syntax.ofJson, Spells]
  | .arr items => exact spells_arr_iff.2 ⟨_, rfl, spells_arrangeItems distinct⟩
  | .obj members =>
    refine spells_obj_iff.2 ⟨_, _, rfl, spells_arrangeMembers distinct.2, ?_⟩
    rw [Syntax.ofMembers_eq_map, Syntax.ofMembers_eq_map]
    refine List.Perm.map _ (Table.perm_entries_ofList ?_)
    rw [keys_arrangeMembers]
    exact distinct.1

theorem spells_arrangeItems {items : List Json} (distinct : DistinctItems items) :
    List.Forall₂ Spells items (Syntax.ofItems (arrangeItems items)) := by
  match items with
  | [] => exact .nil
  | item :: items => exact .cons (spells_arrange distinct.1) (spells_arrangeItems distinct.2)

theorem spells_arrangeMembers {members : List (String × Json)}
    (distinct : DistinctMembers members) :
    List.Forall₂ SpellsMember members (Syntax.ofMembers (arrangeMembers members)) := by
  match members with
  | [] => exact .nil
  | (key, value) :: members =>
    exact .cons ⟨rfl, spells_arrange distinct.1⟩ (spells_arrangeMembers distinct.2)

end

end Json

end CaseForm

import CaseForm.Json.Basic
import CaseForm.Table
import Mathlib.Data.List.Forall2

/-!
Equality of JSON values, and of tables of them.

Equality of values compares numbers by their kind and takes the two zeros for one, so it is coarser
than being the same value. It is reflexive and transitive (`Json.same_refl`, `Json.same_trans`), and
arrays are compared item by item, objects member by member. Tables are equal if they answer with
equal values (`Table.Same`), and stay so when equal pairs are written into them
(`Table.Same.extend`).
-/

namespace CaseForm

namespace Number

theorem same_refl (n : Number) : n.same n = true := by
  cases n <;> simp [same]

theorem same_trans {a b c : Number} (first : a.same b = true) (second : b.same c = true) :
    a.same c = true := by
  cases a <;> cases b <;> cases c <;> simp only [same, beq_iff_eq, Bool.or_eq_true,
    Bool.and_eq_true, Bool.false_eq_true] at first second ⊢
  case int a b c => exact first.trans second
  case real a b c =>
    rcases first with rfl | ⟨zero, also⟩
    · exact second
    · rcases second with rfl | ⟨-, last⟩
      · exact .inr ⟨zero, also⟩
      · exact .inr ⟨zero, last⟩

end Number

namespace Json

/-- Members are equal if their keys are and their values are equal. -/
def SameMember (a b : String × Json) : Prop := a.1 = b.1 ∧ a.2.same b.2 = true

theorem sameItems_iff {as bs : List Json} :
    sameItems as bs = true ↔ List.Forall₂ (fun a b => a.same b = true) as bs := by
  induction as generalizing bs with
  | nil => cases bs <;> simp [sameItems]
  | cons a as ih => cases bs <;> simp [sameItems, ih]

theorem sameMembers_iff {as bs : List (String × Json)} :
    sameMembers as bs = true ↔ List.Forall₂ SameMember as bs := by
  induction as generalizing bs with
  | nil => cases bs <;> simp [sameMembers]
  | cons a as ih => cases bs <;> simp [sameMembers, ih, SameMember]

/-- Every value is equal to itself. -/
theorem same_refl (value : Json) : value.same value = true := by
  match value with
  | .null => rfl
  | .bool _ | .str _ => simp [same]
  | .num n => exact n.same_refl
  | .arr items =>
    rw [same, sameItems_iff, List.forall₂_same]
    intro item mem
    exact same_refl item
  | .obj members =>
    rw [same, sameMembers_iff, List.forall₂_same]
    intro member mem
    exact ⟨rfl, same_refl member.2⟩
termination_by sizeOf value
decreasing_by
  · have := List.sizeOf_lt_of_mem mem
    simp only [Json.arr.sizeOf_spec]
    omega
  · have := List.sizeOf_lt_of_mem mem
    obtain ⟨key, inner⟩ := member
    simp only [Json.obj.sizeOf_spec, Prod.mk.sizeOf_spec] at this ⊢
    omega

mutual

/-- What is equal to an equal value is equal. -/
theorem same_trans {a b c : Json} (first : a.same b = true) (second : b.same c = true) :
    a.same c = true := by
  cases a <;> cases b <;> simp only [same, Bool.false_eq_true, beq_iff_eq] at first <;>
    cases c <;> simp only [same, Bool.false_eq_true, beq_iff_eq] at second ⊢
  case bool.bool.bool => exact first.trans second
  case num.num.num => exact Number.same_trans first second
  case str.str.str => exact first.trans second
  case arr.arr.arr => exact sameItems_trans first second
  case obj.obj.obj => exact sameMembers_trans first second

theorem sameItems_trans {as bs cs : List Json} (first : sameItems as bs = true)
    (second : sameItems bs cs = true) : sameItems as cs = true := by
  match as, bs, cs, first, second with
  | [], [], [], _, _ => rfl
  | a :: as, b :: bs, c :: cs, first, second =>
    simp only [sameItems, Bool.and_eq_true] at first second ⊢
    exact ⟨same_trans first.1 second.1, sameItems_trans first.2 second.2⟩

theorem sameMembers_trans {as bs cs : List (String × Json)} (first : sameMembers as bs = true)
    (second : sameMembers bs cs = true) : sameMembers as cs = true := by
  match as, bs, cs, first, second with
  | [], [], [], _, _ => rfl
  | (i, a) :: as, (j, b) :: bs, (k, c) :: cs, first, second =>
    simp only [sameMembers, Bool.and_eq_true, beq_iff_eq] at first second ⊢
    exact ⟨⟨first.1.1.trans second.1.1, same_trans first.1.2 second.1.2⟩,
      sameMembers_trans first.2 second.2⟩

end

end Json

/-! ### Tables -/

namespace Table

/-- The tables answer with equal values. -/
def Same (s t : Table Json) : Prop :=
  ∀ key, Option.Rel (fun a b => a.same b = true) (s.get? key) (t.get? key)

namespace Same

variable {s t : Table Json}

theorem refl (s : Table Json) : Same s s := by
  intro key
  cases s.get? key with
  | none => exact .none
  | some value => exact .some value.same_refl

theorem insert (same : Same s t) (key : String) {a b : Json} (equal : a.same b = true) :
    Same (s.insert key a) (t.insert key b) := by
  intro other
  rw [get?_insert, get?_insert]
  split
  · exact .some equal
  · exact same other

/-- Equal pairs leave equal tables equal. -/
theorem extend (same : Same s t) {pairs others : List (String × Json)}
    (equal : List.Forall₂ Json.SameMember pairs others) :
    Same (s.extend pairs) (t.extend others) := by
  induction equal generalizing s t with
  | nil => exact same
  | cons here _ ih =>
    obtain ⟨key, value⟩ := here
    rw [extend_cons, extend_cons, key]
    exact ih (same.insert _ value)

end Same

end Table

end CaseForm

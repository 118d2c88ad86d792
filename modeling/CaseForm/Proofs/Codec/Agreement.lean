import CaseForm.Proofs.Codec.Steady

/-!
Two codecs that read alike, or write alike.

A codec that is built over another reads a text by reading what lies in the text, so two codecs over
others that agree up to a depth agree as well. Over an object or an array the depth grows by one
(`Record.agree`): this is what lets the stages of a nested codec take the place of each other. In
the same way two codecs write a record alike if their slots do (`Record.write_eq`).
-/

namespace CaseForm

namespace Codec

variable {α : Type} {a b : Codec α} {depth less : Nat}

/-- The codecs read the texts up to a depth alike, faults included. -/
def Agree (depth : Nat) (a b : Codec α) : Prop :=
  ∀ text : Syntax, text.depth ≤ depth → a.read text = b.read text

theorem Agree.mono (agree : a.Agree depth b) (le : less ≤ depth) : a.Agree less b :=
  fun text deep => agree text (Nat.le_trans deep le)

theorem Agree.option (agree : a.Agree depth b) : a.option.Agree depth b.option := by
  intro text deep
  by_cases absent : text = .null
  · rw [absent]
    rfl
  · rw [read_option_of_ne absent, read_option_of_ne absent, agree text deep]

theorem Agree.readItems (agree : a.Agree depth b) {texts : List Syntax}
    (deep : Syntax.depthItems texts ≤ depth) : a.readItems texts = b.readItems texts := by
  induction texts with
  | nil => rfl
  | cons text texts ih =>
    obtain ⟨here, later⟩ := Nat.max_le.1 deep
    rw [Codec.readItems, Codec.readItems, agree text here, ih later]

theorem Agree.list (agree : a.Agree depth b) : a.list.Agree depth b.list := by
  intro text deep
  cases text with
  | arr items => exact agree.readItems (Nat.le_of_succ_le deep)
  | _ => rfl

end Codec

namespace Slot

variable {α β : Type} {depth : Nat}

/-- The slots have the same name, are both required or not, and store alike what is read from texts
up to a depth. -/
structure Agree (depth : Nat) (s t : Slot α) : Prop where
  name : s.name = t.name
  required : s.required = t.required
  store : ∀ text : Syntax, text.depth ≤ depth → s.store text = t.store text

theorem Agree.refl (depth : Nat) (slot : Slot α) : slot.Agree depth slot :=
  ⟨rfl, rfl, fun _ _ => rfl⟩

theorem Agree.always {a b : Codec β} (agree : a.Agree depth b) (name : String) (get : α → β)
    (put : β → α → α) : (always name a get put).Agree depth (always name b get put) where
  name := rfl
  required := rfl
  store text deep := by simp only [Slot.always, omitting, agree text deep]

theorem Agree.optional {a b : Codec β} (agree : a.Agree depth b) (name : String)
    (get : α → Option β) (put : Option β → α → α) :
    (optional name a get put).Agree depth (optional name b get put) where
  name := rfl
  required := rfl
  store text deep := by simp only [Slot.optional, omitting, agree.option text deep]

end Slot

namespace Record

variable {α : Type} {r s : Record α} {depth : Nat}

theorem satisfied_of_agree (slots : List.Forall₂ (Slot.Agree depth) r.slots s.slots) :
    r.satisfied = s.satisfied := by
  funext given
  unfold satisfied
  generalize r.slots = own, s.slots = others at slots
  induction slots with
  | nil => rfl
  | cons here _ ih => rw [List.all_cons, List.all_cons, here.name, here.required, ih]

theorem find?_of_agree {slots others : List (Slot α)}
    (agree : List.Forall₂ (Slot.Agree depth) slots others) (key : String) :
    Option.Rel (Slot.Agree depth) (slots.find? fun slot => slot.name == key)
      (others.find? fun slot => slot.name == key) := by
  induction agree with
  | nil => exact .none
  | cons here _ ih =>
    rw [List.find?_cons, List.find?_cons, here.name]
    split
    · exact .some here
    · exact ih

theorem readMembers_of_agree (slots : List.Forall₂ (Slot.Agree depth) r.slots s.slots)
    {texts : List (Option String × Syntax)} (deep : Syntax.depthMembers texts ≤ depth)
    (given : List String) (soFar : α) :
    r.readMembers given soFar texts = s.readMembers given soFar texts := by
  induction texts generalizing given soFar with
  | nil => rw [readMembers, readMembers, satisfied_of_agree slots]
  | cons text texts ih =>
    obtain ⟨key, written⟩ := text
    obtain ⟨here, later⟩ := Nat.max_le.1 deep
    cases key with
    | none => rfl
    | some key =>
      rw [readMembers, readMembers]
      have found := find?_of_agree slots key
      generalize (r.slots.find? fun slot => slot.name == key) = own,
        (s.slots.find? fun slot => slot.name == key) = other at found
      cases found with
      | none => simp only [ih later]
      | some agree => simp only [agree.store written here, ih later]

theorem readItems_of_agree {slots others : List (Slot α)}
    (agree : List.Forall₂ (Slot.Agree depth) slots others) {texts : List Syntax}
    (deep : Syntax.depthItems texts ≤ depth) (soFar : α) :
    readItems soFar slots texts = readItems soFar others texts := by
  induction texts generalizing slots others soFar with
  | nil =>
    have required : slots.any (·.required) = others.any (·.required) := by
      clear deep
      induction agree with
      | nil => rfl
      | cons here _ ih => rw [List.any_cons, List.any_cons, here.required, ih]
    rw [readItems, readItems, required]
  | cons text texts ih =>
    obtain ⟨here, later⟩ := Nat.max_le.1 deep
    cases agree with
    | nil => rfl
    | cons first rest => simp only [readItems, first.store text here, ih rest later]

/-- Records whose slots agree up to a depth agree up to the next. -/
theorem agree (blank : r.blank = s.blank)
    (slots : List.Forall₂ (Slot.Agree depth) r.slots s.slots) :
    r.codec.Agree (depth + 1) s.codec := by
  intro text deep
  cases text with
  | obj members =>
    simp only [codec, blank, readMembers_of_agree slots (Nat.le_of_succ_le_succ deep)]
  | arr items =>
    simp only [codec, blank, readItems_of_agree slots (Nat.le_of_succ_le_succ deep)]
  | _ => rfl

end Record

/-! ### Writing -/

section Writing

variable {α β : Type} {a b : Codec β} {record : α}

theorem Codec.write_list_eq {values : List β}
    (same : ∀ value ∈ values, a.write value = b.write value) :
    a.list.write values = b.list.write values := congrArg Json.arr (List.map_congr_left same)

/-- The slots have the same name, and the same is written for them. -/
structure Slot.Alike (record : α) (s t : Slot α) : Prop where
  name : s.name = t.name
  member : s.member? record = t.member? record

theorem Slot.Alike.refl (record : α) (slot : Slot α) : slot.Alike record slot := ⟨rfl, rfl⟩

theorem Slot.Alike.always {get : α → β} (same : a.write (get record) = b.write (get record))
    (name : String) (put : β → α → α) :
    (always name a get put).Alike record (always name b get put) where
  name := rfl
  member := congrArg some same

theorem Slot.Alike.optional {get : α → Option β}
    (same : ∀ value ∈ get record, a.write value = b.write value) (name : String)
    (put : Option β → α → α) :
    (optional name a get put).Alike record (optional name b get put) where
  name := rfl
  member := by
    simp only [Slot.optional, omitting]
    cases held : get record with
    | none => rfl
    | some value => exact congrArg some (same value held)

/-- A record is written alike if its slots are. -/
theorem Record.write_eq {r s : Record α}
    (slots : List.Forall₂ (Slot.Alike record) r.slots s.slots) :
    r.codec.write record = s.codec.write record := by
  refine congrArg Json.obj ?_
  unfold members
  generalize r.slots = own, s.slots = others at slots
  induction slots with
  | nil => rfl
  | cons here _ ih => rw [List.filterMap_cons, List.filterMap_cons, here.member, here.name, ih]

end Writing

end CaseForm

import CaseForm.Entries

/-!
Tables: finite maps from texts, listed in the order of their keys.

The order is part of the type, so two tables that answer alike are one table (`Table.ext_get?`)
and whatever is printed from a table does not depend on how it was filled.
-/

namespace CaseForm

/-- A finite map from texts to `α`. -/
structure Table (α : Type) where
  /-- The entries, one a key, in key order. -/
  entries : Entries α
  sorted : entries.Sorted

namespace Table

variable {α : Type}

/-- The table without entries. -/
def empty : Table α := ⟨[], Entries.sorted_nil⟩

instance : EmptyCollection (Table α) := ⟨empty⟩
instance : Inhabited (Table α) := ⟨empty⟩

/-- The value under `key`. -/
def get? (table : Table α) (key : String) : Option α := Entries.get? key table.entries

/-- Whether `key` has a value. -/
def contains (table : Table α) (key : String) : Bool := (table.get? key).isSome

/-- Gives `key` a value, in place of any it had. -/
def insert (table : Table α) (key : String) (value : α) : Table α :=
  ⟨Entries.set key value table.entries, Entries.sorted_set table.sorted key value⟩

/-- Takes `key` out. -/
def erase (table : Table α) (key : String) : Table α :=
  ⟨Entries.erase key table.entries, Entries.sorted_erase table.sorted key⟩

/-- Writes the pairs in their order, a later one over an earlier one. -/
def extend (table : Table α) (pairs : List (String × α)) : Table α :=
  pairs.foldl (fun t pair => t.insert pair.1 pair.2) table

/-- The table of the pairs; of two with one key the later counts. -/
def ofList (pairs : List (String × α)) : Table α := empty.extend pairs

/-- The keys in order. -/
def keys (table : Table α) : List String := table.entries.keys

/-- The number of keys. -/
def size (table : Table α) : Nat := table.entries.length

/-- Whether no key has a value. -/
def isEmpty (table : Table α) : Bool := table.entries.isEmpty

/-! ### What a table answers -/

@[simp] theorem get?_empty (key : String) : (empty : Table α).get? key = none := rfl

@[simp] theorem get?_insert (table : Table α) (key other : String) (value : α) :
    (table.insert key value).get? other = if other = key then some value else table.get? other :=
  Entries.get?_set ..

@[simp] theorem get?_erase (table : Table α) (key other : String) :
    (table.erase key).get? other = if other = key then none else table.get? other :=
  Entries.get?_erase ..

@[simp] theorem extend_nil (table : Table α) : table.extend [] = table := rfl

@[simp] theorem extend_cons (table : Table α) (pair : String × α) (pairs : List (String × α)) :
    table.extend (pair :: pairs) = (table.insert pair.1 pair.2).extend pairs := rfl

theorem extend_append (table : Table α) (xs ys : List (String × α)) :
    table.extend (xs ++ ys) = (table.extend xs).extend ys := List.foldl_append

/-- After pairs were written into a table, a key has the value of one of its pairs, or what it had
before. -/
theorem get?_extend_cases (table : Table α) (pairs : List (String × α)) (key : String) :
    (∃ value, (key, value) ∈ pairs ∧ (table.extend pairs).get? key = some value) ∨
      (∀ value, (key, value) ∉ pairs) ∧ (table.extend pairs).get? key = table.get? key := by
  induction pairs generalizing table with
  | nil => simp
  | cons pair pairs ih =>
    rw [extend_cons]
    rcases ih (table.insert pair.1 pair.2) with ⟨value, mem, later⟩ | ⟨absent, later⟩
    · exact .inl ⟨value, List.mem_cons_of_mem _ mem, later⟩
    · rw [get?_insert] at later
      by_cases same : key = pair.1
      · subst same
        rw [if_pos rfl] at later
        exact .inl ⟨pair.2, List.mem_cons_self, later⟩
      · rw [if_neg same] at later
        refine .inr ⟨?_, later⟩
        intro value mem
        rcases List.mem_cons.1 mem with eq | mem
        · exact same (congrArg Prod.fst eq)
        · exact absent value mem

/-- A table of pairs of which no two give one key different values has exactly these. -/
theorem get?_ofList_eq_some_iff {pairs : List (String × α)} {key : String}
    (single : ∀ a b, (key, a) ∈ pairs → (key, b) ∈ pairs → a = b) {value : α} :
    (ofList pairs).get? key = some value ↔ (key, value) ∈ pairs := by
  unfold ofList
  rcases get?_extend_cases .empty pairs key with ⟨other, mem, there⟩ | ⟨absent, there⟩
  · rw [there, Option.some.injEq]
    constructor
    · rintro rfl
      exact mem
    · exact fun also => single other value mem also
  · rw [there, get?_empty]
    simp [absent value]

/-- A table of pairs has the keys of the pairs. -/
theorem contains_ofList {pairs : List (String × α)} {key : String} :
    (ofList pairs).contains key = true ↔ ∃ value, (key, value) ∈ pairs := by
  rw [contains, ofList]
  rcases get?_extend_cases .empty pairs key with ⟨value, mem, there⟩ | ⟨absent, there⟩
  · rw [there]
    exact ⟨fun _ => ⟨value, mem⟩, fun _ => rfl⟩
  · rw [there, get?_empty]
    exact ⟨nofun, fun ⟨value, mem⟩ => absurd mem (absent value)⟩

theorem mem_entries_iff (table : Table α) (key : String) (value : α) :
    (key, value) ∈ table.entries ↔ table.get? key = some value :=
  (Entries.get?_eq_some_iff table.sorted).symm

/-- Tables that answer alike are equal. -/
theorem ext_get? {s t : Table α} (h : ∀ key, s.get? key = t.get? key) : s = t := by
  have := Entries.eq_of_get?_eq s.sorted t.sorted h
  cases s; cases t; simp_all

end Table

/-- A set of texts. -/
abbrev TextSet := Table Unit

end CaseForm

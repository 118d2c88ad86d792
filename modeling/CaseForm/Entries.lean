/-!
Association lists keyed by text, written in key order.

`Entries.set` replaces the first entry of its key and otherwise inserts before the first greater
key, in one pass. Hence what is read after a write (`get?_set_self`, `get?_set_of_ne`) needs no
assumption on the list, while a list in strict key order stays in it (`sorted_set`,
`sorted_erase`) and is then determined by what it answers (`eq_of_get?_eq`).
-/

namespace CaseForm

/-- Values under text keys. -/
abbrev Entries (α : Type) := List (String × α)

namespace Entries

variable {α β : Type}

/-- The value of the first entry under `key`. -/
def get? (key : String) : Entries α → Option α
  | [] => none
  | (k, v) :: rest => if k = key then some v else get? key rest

/-- Whether some entry stands under `key`. -/
def contains (key : String) (entries : Entries α) : Bool := (get? key entries).isSome

/-- Replaces the first entry under `key`, or inserts one before the first greater key. -/
def set (key : String) (value : α) : Entries α → Entries α
  | [] => [(key, value)]
  | (k, v) :: rest =>
    if k = key then (key, value) :: rest
    else if key < k then (key, value) :: (k, v) :: rest
    else (k, v) :: set key value rest

/-- Removes every entry under `key`. -/
def erase (key : String) (entries : Entries α) : Entries α :=
  entries.filter fun entry => entry.1 != key

/-- The keys in the order of the entries. -/
def keys (entries : Entries α) : List String := entries.map (·.1)

/-- Strict key order, so that no key stands twice. -/
def Sorted (entries : Entries α) : Prop := entries.Pairwise fun a b => a.1 < b.1

instance (entries : Entries α) : Decidable entries.Sorted :=
  inferInstanceAs (Decidable (entries.Pairwise _))

/-! ### Reading after a write -/

@[simp] theorem get?_nil (key : String) : get? key ([] : Entries α) = none := rfl

theorem get?_cons (key : String) (entry : String × α) (rest : Entries α) :
    get? key (entry :: rest) = if entry.1 = key then some entry.2 else get? key rest := rfl

@[simp] theorem get?_set_self (key : String) (value : α) (entries : Entries α) :
    get? key (set key value entries) = some value := by
  induction entries with
  | nil => simp [set, get?]
  | cons entry rest ih =>
    obtain ⟨k, v⟩ := entry
    simp only [set]
    split
    · simp [get?]
    · split
      · simp [get?]
      · simp_all [get?]

theorem get?_set_of_ne {key other : String} (ne : other ≠ key) (value : α)
    (entries : Entries α) : get? other (set key value entries) = get? other entries := by
  induction entries with
  | nil => simp [set, get?, ne.symm]
  | cons entry rest ih =>
    obtain ⟨k, v⟩ := entry
    simp only [set]
    split
    · next h => subst h; simp [get?, ne.symm]
    · split
      · simp [get?, ne.symm]
      · simp [get?, ih]

theorem get?_set (key other : String) (value : α) (entries : Entries α) :
    get? other (set key value entries) =
      if other = key then some value else get? other entries := by
  split
  · next h => subst h; exact get?_set_self ..
  · next h => exact get?_set_of_ne h ..

/-- Of two writes under one key the later counts. -/
theorem set_set (key : String) (value earlier : α) (entries : Entries α) :
    set key value (set key earlier entries) = set key value entries := by
  induction entries with
  | nil => simp [set]
  | cons entry rest ih =>
    obtain ⟨k, v⟩ := entry
    simp only [set]
    split
    · simp [set]
    · split
      · simp [set]
      · next ne nlt => simp [set, ne, nlt, ih]

theorem get?_erase (key other : String) (entries : Entries α) :
    get? other (erase key entries) = if other = key then none else get? other entries := by
  induction entries with
  | nil => simp [erase]
  | cons entry rest ih =>
    obtain ⟨k, v⟩ := entry
    unfold erase at ih ⊢
    by_cases hk : k = key
    · subst hk
      by_cases ho : other = k
      · simp [ho] at ih ⊢; exact ih
      · simp [get?, Ne.symm ho, ho, ih]
    · by_cases ho : k = other
      · subst ho; simp [hk, get?]
      · simp [hk, get?, ho, ih]

theorem mem_of_get? {key : String} {value : α} {entries : Entries α}
    (h : get? key entries = some value) : (key, value) ∈ entries := by
  induction entries with
  | nil => simp at h
  | cons entry rest ih =>
    obtain ⟨k, v⟩ := entry
    simp only [get?] at h
    split at h
    · next hk => subst hk; simp_all
    · exact List.mem_cons_of_mem _ (ih h)

/-! ### Key order -/

theorem mem_set {key : String} {value : α} {entries : Entries α} {entry : String × α}
    (h : entry ∈ set key value entries) : entry = (key, value) ∨ entry ∈ entries := by
  induction entries with
  | nil => simpa [set] using h
  | cons first rest ih =>
    obtain ⟨k, v⟩ := first
    simp only [set] at h
    split at h
    · simp only [List.mem_cons] at h ⊢; exact h.imp_right .inr
    · split at h
      · simpa using h
      · rcases List.mem_cons.1 h with h | h
        · exact .inr (h ▸ List.mem_cons_self)
        · exact (ih h).imp_right (List.mem_cons_of_mem _)

theorem sorted_nil : Sorted ([] : Entries α) := List.Pairwise.nil

theorem sorted_set {entries : Entries α} (sorted : entries.Sorted) (key : String) (value : α) :
    (set key value entries).Sorted := by
  unfold Sorted at sorted ⊢
  induction entries with
  | nil => simp [set]
  | cons first rest ih =>
    obtain ⟨k, v⟩ := first
    rw [List.pairwise_cons] at sorted
    simp only [set]
    split
    · next h => subst h; exact List.pairwise_cons.2 sorted
    · next ne =>
      split
      · next lt =>
        refine List.pairwise_cons.2 ⟨fun e he => ?_, List.pairwise_cons.2 sorted⟩
        rcases List.mem_cons.1 he with rfl | he
        · exact lt
        · exact String.lt_trans lt (sorted.1 e he)
      · next nlt =>
        refine List.pairwise_cons.2 ⟨fun e he => ?_, ih sorted.2⟩
        rcases mem_set he with rfl | he
        · exact Decidable.byContradiction fun ge =>
            ne (String.le_antisymm (String.not_lt.1 nlt) (String.not_lt.1 ge))
        · exact sorted.1 e he

theorem sorted_erase {entries : Entries α} (sorted : entries.Sorted) (key : String) :
    (erase key entries).Sorted := List.Pairwise.filter _ sorted

theorem get?_eq_some_iff {entries : Entries α} (sorted : entries.Sorted) {key : String}
    {value : α} :
    get? key entries = some value ↔ (key, value) ∈ entries := by
  refine ⟨mem_of_get?, fun mem => ?_⟩
  unfold Sorted at sorted
  induction entries with
  | nil => simp at mem
  | cons first rest ih =>
    obtain ⟨k, v⟩ := first
    rw [List.pairwise_cons] at sorted
    rcases List.mem_cons.1 mem with h | h
    · cases h; simp [get?]
    · have lt := sorted.1 _ h
      have ne : k ≠ key := fun eq => String.lt_irrefl key (eq ▸ lt)
      simp [get?, ne, ih sorted.2 h]

/-- Two lists in strict key order that answer alike are equal. -/
theorem eq_of_get?_eq {xs ys : Entries α} (hx : xs.Sorted) (hy : ys.Sorted)
    (h : ∀ key, get? key xs = get? key ys) : xs = ys := by
  have mem : ∀ entry, entry ∈ xs ↔ entry ∈ ys := fun ⟨k, v⟩ => by
    rw [← get?_eq_some_iff hx, ← get?_eq_some_iff hy, h]
  clear h
  unfold Sorted at hx hy
  induction xs generalizing ys with
  | nil =>
    cases ys with
    | nil => rfl
    | cons y ys => simpa using (mem y).2 List.mem_cons_self
  | cons x xs ih =>
    cases ys with
    | nil => simpa using (mem x).1 List.mem_cons_self
    | cons y ys =>
      rw [List.pairwise_cons] at hx hy
      have head : x = y := by
        rcases List.mem_cons.1 ((mem x).1 List.mem_cons_self) with h | h
        · exact h
        rcases List.mem_cons.1 ((mem y).2 List.mem_cons_self) with h' | h'
        · exact h'.symm
        exact absurd (String.lt_trans (hy.1 x h) (hx.1 y h')) (String.lt_irrefl _)
      subst head
      refine congrArg _ (ih hx.2 hy.2 fun e => ⟨fun he => ?_, fun he => ?_⟩)
      · rcases List.mem_cons.1 ((mem e).1 (List.mem_cons_of_mem _ he)) with rfl | h
        · exact absurd (hx.1 e he) (String.lt_irrefl _)
        · exact h
      · rcases List.mem_cons.1 ((mem e).2 (List.mem_cons_of_mem _ he)) with rfl | h
        · exact absurd (hy.1 e he) (String.lt_irrefl _)
        · exact h

/-- Writing what stands under a key changes nothing. -/
theorem set_eq_self {entries : Entries α} (sorted : entries.Sorted) {key : String} {value : α}
    (h : get? key entries = some value) : set key value entries = entries := by
  refine eq_of_get?_eq (sorted_set sorted key value) sorted fun other => ?_
  rw [get?_set]
  split
  · next eq => rw [eq, h]
  · rfl

end Entries

end CaseForm

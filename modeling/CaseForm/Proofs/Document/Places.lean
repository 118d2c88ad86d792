import CaseForm.Proofs.Document.Reach

/-!
What many paths do at the places on their way.

Each path needs an object where it goes into a member and a list where it goes into an item. Where
one needs an object, the others can only have a list that is lost (`Lost`): what they wrote there is
gone. What no path leads to is empty, or fills up a list (`filling`).

* `place_cases`: what the paths make of a place;
* `Blocked`: when a path cannot follow others, and `Obstructed`, when a sequence of paths cannot be
  written.
-/

namespace CaseForm

/-- A segment goes into an item from the name of a list. -/
theorem Segment.member_of_keys_eq {segment : Segment} {place rest : Address} {index : Nat}
    (eq : segment.keys = place ++ .item index :: rest) :
    ∃ before name, place = before ++ [.member name] := by
  cases segment with
  | page name => rcases place with _ | ⟨a, _ | ⟨b, place⟩⟩ <;> cases eq
  | listItem name item =>
    rcases place with _ | ⟨a, _ | ⟨b, place⟩⟩
    · cases eq
    · cases eq
      exact ⟨[], name, rfl⟩
    · cases place <;> cases eq
  | groupEntry name key =>
    rcases place with _ | ⟨a, _ | ⟨b, place⟩⟩
    · cases eq
    · cases eq
    · cases place <;> cases eq

namespace Path

theorem member_of_keys_eq {containers : List Segment} {leaf : Segment} {place rest : Address}
    {index : Nat}
    (eq : containers.flatMap Segment.keys ++ leaf.keys = place ++ .item index :: rest) :
    ∃ before name, place = before ++ [.member name] := by
  induction containers generalizing place with
  | nil => exact Segment.member_of_keys_eq eq
  | cons segment containers ih =>
    rw [List.flatMap_cons, List.append_assoc, List.append_eq_append_iff] at eq
    rcases eq with ⟨inner, rfl, eq⟩ | ⟨_ | ⟨key, between⟩, split, eq⟩
    · obtain ⟨before, name, rfl⟩ := ih eq
      exact ⟨segment.keys ++ before, name, by rw [List.append_assoc]⟩
    · obtain ⟨name, tail, keys⟩ := exists_keys_eq_cons containers leaf
      rw [keys] at eq
      cases eq
    · cases eq
      exact Segment.member_of_keys_eq split

/-- A list has a name: it is a member of an object. -/
theorem Lists.member {path : Path} {place : Address} (lists : path.Lists place) :
    ∃ before name, place = before ++ [.member name] := by
  obtain ⟨index, rest, eq⟩ := lists
  rw [address_eq] at eq
  exact member_of_keys_eq eq

/-- A path cannot go both into a member and into an item. -/
theorem Opens.not_lists {path : Path} {place : Address} (opens : path.Opens place) :
    ¬ path.Lists place := by
  obtain ⟨name, rest, eq⟩ := opens
  rintro ⟨index, tail, other⟩
  have := List.append_cancel_left (eq.symm.trans other)
  cases this

/-- On the way of a path and at its end it goes into lists, into objects, or stops. -/
theorem prefix_iff {path : Path} {place : Address} :
    place <+: path.address ↔
      path.address = place ∨ path.Opens place ∨ path.Lists place := by
  constructor
  · rintro ⟨rest, eq⟩
    cases rest with
    | nil => exact .inl (by rw [← eq, List.append_nil])
    | cons key rest =>
      cases key with
      | member name => exact .inr (.inl ⟨name, rest, eq.symm⟩)
      | item index => exact .inr (.inr ⟨index, rest, eq.symm⟩)
  · rintro (eq | ⟨name, rest, eq⟩ | ⟨index, rest, eq⟩)
    · exact ⟨[], by rw [eq, List.append_nil]⟩
    · exact ⟨_, eq.symm⟩
    · exact ⟨_, eq.symm⟩

end Path

/-! ### Many paths -/

section Places

variable (paths : List Path)

/-- Some path goes into a member of what stands at a place. -/
def Opened (place : Address) : Prop := ∃ path ∈ paths, path.Opens place

/-- Some path goes into an item of what stands at a place. -/
def Listed (place : Address) : Prop := ∃ path ∈ paths, path.Lists place

/-- An address lies in a list where some path needs an object. -/
def Lost (address : Address) : Prop := ∃ path ∈ paths, path.Loses address

/-- What the first path that goes past an address in a list leaves there. -/
def filling (address : Address) : Option Json :=
  paths.findSome? fun path => path.address.fills address

/-- No path leads to an address or past it, and no list around it is lost. -/
def Gap (address : Address) : Prop :=
  (∀ path ∈ paths, ¬ address <+: path.address) ∧ ¬ Lost paths address

/-- A path cannot follow others: it needs a list where one of them made an object, or it needs an
object where all of them made a list, and does not enter it by a subscript. -/
def Blocked (path : Path) : Prop :=
  ∃ place, path.Lists place ∧ Opened paths place ∨
    path.Opens place ∧ ¬ path.Enters place ∧ Listed paths place ∧ ¬ Opened paths place

/-- Some path of a sequence cannot follow those before it. -/
def Obstructed : Prop :=
  ∃ before path after, paths = before ++ path :: after ∧ Blocked before path

end Places

section Places

variable {paths : List Path} {path : Path} {place address : Address}

theorem opened_concat_iff :
    Opened (paths ++ [path]) place ↔ Opened paths place ∨ path.Opens place := by
  simp only [Opened, List.mem_append, List.mem_singleton, or_and_right, exists_or, exists_eq_left]

theorem listed_concat_iff :
    Listed (paths ++ [path]) place ↔ Listed paths place ∨ path.Lists place := by
  simp only [Listed, List.mem_append, List.mem_singleton, or_and_right, exists_or, exists_eq_left]

theorem lost_concat_iff :
    Lost (paths ++ [path]) address ↔ Lost paths address ∨ path.Loses address := by
  simp only [Lost, List.mem_append, List.mem_singleton, or_and_right, exists_or, exists_eq_left]

theorem filling_concat :
    filling (paths ++ [path]) address =
      (filling paths address).or (path.address.fills address) := by
  rw [filling, List.findSome?_append, List.findSome?_singleton]
  rfl

theorem gap_concat_iff :
    Gap (paths ++ [path]) address ↔
      Gap paths address ∧ ¬ address <+: path.address ∧ ¬ path.Loses address := by
  simp only [Gap, lost_concat_iff, List.mem_append, List.mem_singleton, or_imp, forall_and,
    forall_eq, not_or]
  constructor
  · rintro ⟨⟨old, new⟩, kept, keeps⟩
    exact ⟨⟨old, kept⟩, new, keeps⟩
  · rintro ⟨⟨old, kept⟩, new, keeps⟩
    exact ⟨⟨old, new⟩, kept, keeps⟩

/-- An address is lost in an object that stands on the way to it. -/
theorem lost_iff :
    Lost paths address ↔
      ∃ place index rest, Opened paths place ∧ address = place ++ .item index :: rest := by
  constructor
  · rintro ⟨path, mem, place, index, rest, opens, eq⟩
    exact ⟨place, index, rest, ⟨path, mem, opens⟩, eq⟩
  · rintro ⟨place, index, rest, ⟨path, mem, opens⟩, eq⟩
    exact ⟨path, mem, place, index, rest, opens, eq⟩

/-- What is lost one key further is lost already, or lies in an object. -/
theorem lost_concat_key {key : Key} (lost : Lost paths (place ++ [key])) :
    Lost paths place ∨ Opened paths place := by
  obtain ⟨list, index, rest, opened, eq⟩ := lost_iff.1 lost
  rcases List.eq_nil_or_concat rest with rfl | ⟨before, last, rfl⟩
  · rw [(List.append_inj' eq rfl).1]
    exact .inr opened
  · rw [List.concat_eq_append, ← List.cons_append, ← List.append_assoc] at eq
    exact .inl (lost_iff.2 ⟨list, index, before, opened, (List.append_inj' eq rfl).1⟩)

/-- Nothing fills the root. -/
theorem filling_nil (paths : List Path) : filling paths [] = none := by
  rw [filling, List.findSome?_eq_none_iff]
  intro path _
  cases path.address <;> rfl

/-- Gaps are filled with nothing to speak of. -/
theorem filling_cases (paths : List Path) (address : Address) :
    filling paths address = none ∨ filling paths address = some .null ∨
      filling paths address = some (.obj []) := by
  cases h : filling paths address with
  | none => exact .inl rfl
  | some value =>
    obtain ⟨path, -, fills⟩ := List.exists_of_findSome?_eq_some h
    obtain ⟨list, index, other, rest, -, -, -, rfl⟩ := Address.eq_of_fills fills
    rcases Document.padding_cases rest with eq | eq
    · exact .inr (.inl (by rw [eq]))
    · exact .inr (.inr (by rw [eq]))

/-- What stands at a place is an object, a list, a value that was written there, or a filling. -/
theorem place_cases (paths : List Path) (place : Address) (kept : ¬ Lost paths place) :
    Opened paths place ∨ ¬ Opened paths place ∧ Listed paths place ∨
      (¬ Opened paths place ∧ ¬ Listed paths place ∧ ∃ path ∈ paths, path.address = place) ∨
        Gap paths place := by
  by_cases opened : Opened paths place
  · exact .inl opened
  by_cases listed : Listed paths place
  · exact .inr (.inl ⟨opened, listed⟩)
  by_cases ended : ∃ path ∈ paths, path.address = place
  · exact .inr (.inr (.inl ⟨opened, listed, ended⟩))
  refine .inr (.inr (.inr ⟨?_, kept⟩))
  intro path mem leads
  rcases Path.prefix_iff.1 leads with ends | opens | lists
  · exact ended ⟨path, mem, ends⟩
  · exact opened ⟨path, mem, opens⟩
  · exact listed ⟨path, mem, lists⟩

/-! ### Paths that are not blocked -/

/-- A path that is not blocked needs a list only where none of the others needs an object. -/
theorem not_opened_of_lists (free : ¬ Blocked paths path) (lists : path.Lists place) :
    ¬ Opened paths place :=
  fun opened => free ⟨place, .inl ⟨lists, opened⟩⟩

/-- A path that is not blocked leads through no list that is lost. -/
theorem not_lost_of_leads (free : ¬ Blocked paths path) (leads : place <+: path.address) :
    ¬ Lost paths place := by
  intro lost
  obtain ⟨list, index, rest, opened, rfl⟩ := lost_iff.1 lost
  obtain ⟨tail, eq⟩ := leads
  exact not_opened_of_lists free ⟨index, rest ++ tail, by rw [← eq]; simp⟩ opened

end Places

end CaseForm

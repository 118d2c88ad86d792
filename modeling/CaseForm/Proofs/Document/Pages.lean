import CaseForm.Proofs.Document.Sequence

/-!
The pages at the top of a document.

A write reads and changes nothing but what stands under the first name of its path, and whether it
fails is decided there as well (`Document.walk_confined`). So a document can be cut in two by its
names at the top, and the entries of a table along with it: a sequence of writes leaves on either
part what the entries of that part alone leave there (`Addressing.writeAll_part`), and where it
fails, the entries of one part alone fail with the same error (`Addressing.exists_part_of_error`).

The entries of the two parts may stand in any order among one another. Root markers move a key
away from the names that it leads to, and so the order of the keys keeps no page together.
-/

namespace CaseForm

/-- The name at the top of a document that the path goes through. -/
def Path.top : Path → String
  | ⟨[], leaf⟩ => leaf.name
  | ⟨segment :: _, _⟩ => segment.name

/-! ### Parts of entries -/

namespace Entries

variable {α : Type}

/-- Entries that are those of two parts, which have no key in common. -/
structure DisjointUnion (whole left right : Entries α) : Prop where
  disjoint : ∀ key, get? key left = none ∨ get? key right = none
  get?_eq : ∀ key, get? key whole = (get? key left).or (get? key right)

/-- The entries whose keys are chosen. -/
def part (chosen : String → Bool) (entries : Entries α) : Entries α :=
  entries.filter fun entry => chosen entry.1

theorem sorted_part {entries : Entries α} (sorted : entries.Sorted) (chosen : String → Bool) :
    (part chosen entries).Sorted := List.Pairwise.filter _ sorted

theorem get?_part (chosen : String → Bool) (key : String) (entries : Entries α) :
    get? key (part chosen entries) = if chosen key then get? key entries else none := by
  induction entries with
  | nil => simp [part]
  | cons entry rest ih =>
    unfold part at ih ⊢
    rw [List.filter_cons]
    by_cases here : entry.1 = key
    · subst here
      cases own : chosen entry.1 with
      | true => simp [get?_cons]
      | false => simp [ih, own]
    · cases own : chosen entry.1 with
      | true => simp [get?_cons, here, ih]
      | false => simp [get?_cons, here, ih]

theorem part_set {entries : Entries α} (sorted : entries.Sorted) {chosen : String → Bool}
    {key : String} (own : chosen key = true) (value : α) :
    part chosen (set key value entries) = set key value (part chosen entries) := by
  refine eq_of_get?_eq (sorted_part (sorted_set sorted key value) chosen)
    (sorted_set (sorted_part sorted chosen) key value) ?_
  intro other
  rw [get?_part, get?_set, get?_set, get?_part]
  by_cases same : other = key
  · rw [if_pos same, same, own]
    simp
  · rw [if_neg same, if_neg same]

theorem part_set_of_foreign {entries : Entries α} (sorted : entries.Sorted)
    {chosen : String → Bool} {key : String} (foreign : chosen key = false) (value : α) :
    part chosen (set key value entries) = part chosen entries := by
  refine eq_of_get?_eq (sorted_part (sorted_set sorted key value) chosen)
    (sorted_part sorted chosen) ?_
  intro other
  rw [get?_part, get?_part, get?_set]
  by_cases same : other = key
  · rw [same, foreign]
    rfl
  · rw [if_neg same]

/-- The chosen entries and the others make up the whole. -/
theorem disjointUnion_part (chosen : String → Bool) (entries : Entries α) :
    DisjointUnion entries (part chosen entries) (part (fun key => !chosen key) entries) := by
  constructor
  case disjoint =>
    intro key
    rw [get?_part, get?_part]
    cases chosen key <;> simp
  case get?_eq =>
    intro key
    rw [get?_part, get?_part]
    cases chosen key <;> simp

namespace DisjointUnion

variable {whole left right : Entries α}

/-- A part is what is chosen by having its keys. -/
theorem filter_left (union : DisjointUnion whole left right) (sorted : whole.Sorted)
    (also : left.Sorted) : (whole.filter fun entry => contains entry.1 left) = left := by
  change part (contains · left) whole = left
  refine eq_of_get?_eq (sorted_part sorted _) also ?_
  intro key
  rw [get?_part, union.get?_eq key, contains]
  cases get? key left <;> rfl

theorem filter_right (union : DisjointUnion whole left right) (sorted : whole.Sorted)
    (also : right.Sorted) : (whole.filter fun entry => !contains entry.1 left) = right := by
  change part (fun key => !contains key left) whole = right
  refine eq_of_get?_eq (sorted_part sorted _) also ?_
  intro key
  rw [get?_part, union.get?_eq key, contains]
  cases there : get? key left with
  | none => rfl
  | some value =>
    rw [(union.disjoint key).resolve_left (by simp [there])]
    rfl

end DisjointUnion

end Entries

/-- An object whose members are those of two others, which have no name in common. -/
def Json.DisjointUnion (whole left right : Json) : Prop :=
  ∃ members lefts rights, whole = .obj members ∧ left = .obj lefts ∧ right = .obj rights ∧
    Entries.Sorted members ∧ Entries.Sorted lefts ∧ Entries.Sorted rights ∧
    Entries.DisjointUnion members lefts rights

/-! ### One write -/

namespace Document

/-- Members that hold the same under the first name of a path fail a write along it with one error,
or it gives both the same new value under that name. -/
theorem walk_confined (reference : String) (path : Path) (value : Json)
    {members others : Entries Json}
    (same : Entries.get? path.top members = Entries.get? path.top others) :
    (∃ e, (walk reference (assign reference path.leaf value) path.containers members).2 =
        .error e ∧
      (walk reference (assign reference path.leaf value) path.containers others).2 = .error e) ∨
    ∃ child,
      walk reference (assign reference path.leaf value) path.containers members =
        (Entries.set path.top child members, .ok ()) ∧
      walk reference (assign reference path.leaf value) path.containers others =
        (Entries.set path.top child others, .ok ()) := by
  -- What is stored under the name comes from what is found there, the same on both sides.
  have stored (name : String) (found : Json) (result : Except ReferenceError Unit) :
      (∃ e, result = .error e ∧ result = .error e) ∨
        ∃ child, (Entries.set name found members, result) =
            (Entries.set name child members, .ok ()) ∧
          (Entries.set name found others, result) = (Entries.set name child others, .ok ()) := by
    cases result with
    | error e => exact .inl ⟨e, rfl, rfl⟩
    | ok done => exact .inr ⟨found, rfl, rfl⟩
  obtain ⟨containers, leaf⟩ := path
  cases containers with
  | nil =>
    simp only [Path.top] at same ⊢
    cases leaf <;>
    · simp only [Segment.name] at same ⊢
      simp only [walk, assign, same]
      generalize (Entries.get? _ others).getD .null = found
      cases found <;> first | exact stored _ _ _ | exact .inl ⟨_, rfl, rfl⟩
  | cons segment rest =>
    simp only [Path.top] at same ⊢
    cases segment <;>
    · simp only [Segment.name] at same ⊢
      simp only [walk, same]
      generalize (Entries.get? _ others).getD .null = found
      cases found <;> first | exact stored _ _ _ | exact .inl ⟨_, rfl, rfl⟩

end Document

namespace Addressing

open Entries (part)

variable {addressing : Addressing}

/-- A write to an object, confined to the first name of its path. -/
theorem write_confined {reference : String} {path : Path}
    (read : addressing.parse reference = .ok path) (value : Json) {members others : Entries Json}
    (same : Entries.get? path.top members = Entries.get? path.top others) :
    (∃ e, (addressing.write reference value (.obj members)).2 = .error e ∧
      (addressing.write reference value (.obj others)).2 = .error e) ∨
    ∃ child,
      addressing.write reference value (.obj members) =
        (.obj (Entries.set path.top child members), .ok ()) ∧
      addressing.write reference value (.obj others) =
        (.obj (Entries.set path.top child others), .ok ()) := by
  simp only [write, read, Json.members]
  rcases Document.walk_confined reference path value same with
    ⟨e, here, there⟩ | ⟨child, here, there⟩
  · exact .inl ⟨e, here, there⟩
  · exact .inr ⟨child, by rw [here], by rw [there]⟩

/-- A write to an object that succeeds leaves an object with a new value under the first name. -/
theorem exists_set_of_write {reference : String} {value next : Json} {members : Entries Json}
    (written : addressing.write reference value (.obj members) = (next, .ok ())) :
    ∃ path child, addressing.parse reference = .ok path ∧
      next = .obj (Entries.set path.top child members) := by
  obtain ⟨path, read, -⟩ := (write_eq_ok_iff ..).1 written
  rcases write_confined read value (rfl : Entries.get? path.top members = _) with
    ⟨e, failed, -⟩ | ⟨child, done, -⟩
  · rw [written] at failed
    cases failed
  · rw [written] at done
    exact ⟨path, child, read, congrArg Prod.fst done⟩

/-! ### A sequence of writes -/

variable {side : String × Json → Bool} {chosen : String → Bool} {entry : String × Json}
  {entries : List (String × Json)} {members : Entries Json} {document next : Json}
  {e : ReferenceError}

/-- An entry that can be read is on the side of the name at its top. -/
def Sided (addressing : Addressing) (side : String × Json → Bool) (chosen : String → Bool)
    (entry : String × Json) : Prop :=
  ∀ path, addressing.parse entry.1 = .ok path → side entry = chosen path.top

theorem Sided.not (sided : addressing.Sided side chosen entry) :
    addressing.Sided (fun entry => !side entry) (fun key => !chosen key) entry := by
  intro path read
  exact congrArg (! ·) (sided path read)

/-- A part of the document sees an entry if the entry is on its side, and what it sees of a write
that succeeds is the write. -/
theorem writeAll_part_cons (sided : addressing.Sided side chosen entry) (sorted : members.Sorted)
    {entered : Entries Json}
    (written : addressing.write entry.1 entry.2 (.obj members) = (.obj entered, .ok ())) :
    addressing.writeAll ((entry :: entries).filter side) (.obj (part chosen members)) =
      addressing.writeAll (entries.filter side) (.obj (part chosen entered)) := by
  obtain ⟨path, child, read, eq⟩ := exists_set_of_write written
  cases eq
  have here := sided path read
  cases own : chosen path.top with
  | false =>
    rw [own] at here
    rw [List.filter_cons_of_neg (by simp [here]), Entries.part_set_of_foreign sorted own]
  | true =>
    rw [own] at here
    have same : Entries.get? path.top members = Entries.get? path.top (part chosen members) := by
      rw [Entries.get?_part, own, if_pos rfl]
    rcases write_confined read entry.2 same with ⟨e, failed, -⟩ | ⟨other, done, also⟩
    · rw [written] at failed
      cases failed
    · rw [written] at done
      have stored := Json.obj.inj (congrArg Prod.fst done)
      rw [List.filter_cons_of_pos here, writeAll, also, stored, Entries.part_set sorted own]

/-- A write that fails also fails on the part of the document that sees it. -/
theorem write_part_error (sided : addressing.Sided side chosen entry) (here : side entry = true)
    (failed : (addressing.write entry.1 entry.2 (.obj members)).2 = .error e) :
    (addressing.write entry.1 entry.2 (.obj (part chosen members))).2 = .error e := by
  cases read : addressing.parse entry.1 with
  | error reason =>
    simp only [write, read] at failed ⊢
    exact failed
  | ok path =>
    have same : Entries.get? path.top members = Entries.get? path.top (part chosen members) := by
      rw [Entries.get?_part, ← sided path read, here, if_pos rfl]
    rcases write_confined read entry.2 same with ⟨other, first, second⟩ | ⟨child, done, -⟩
    · rw [failed] at first
      cases first
      exact second
    · rw [done] at failed
      cases failed

theorem writeAll_cons_error
    (failed : (addressing.write entry.1 entry.2 document).2 = .error e) :
    addressing.writeAll (entry :: entries) document = .error e := by
  rcases written : addressing.write entry.1 entry.2 document with ⟨left, result⟩
  rw [written] at failed
  cases failed
  rw [writeAll, written]

/-- Entries that are written to an object leave an object, and those of a side leave its part. -/
theorem writeAll_part (sided : ∀ entry ∈ entries, addressing.Sided side chosen entry)
    (sorted : members.Sorted)
    (written : addressing.writeAll entries (.obj members) = .ok document) :
    ∃ left : Entries Json, document = .obj left ∧ left.Sorted ∧
      addressing.writeAll (entries.filter side) (.obj (part chosen members)) =
        .ok (.obj (part chosen left)) := by
  induction entries generalizing members with
  | nil =>
    cases written
    exact ⟨members, rfl, sorted, rfl⟩
  | cons entry entries ih =>
    obtain ⟨here, sided⟩ := List.forall_mem_cons.1 sided
    rw [writeAll] at written
    split at written
    · cases written
    · next next done =>
      obtain ⟨path, child, -, rfl⟩ := exists_set_of_write done
      rw [writeAll_part_cons here sorted done]
      exact ih sided (Entries.sorted_set sorted path.top child) written

/-- Entries of which one cannot be written fail with the same error on their side. -/
theorem exists_part_of_error (sided : ∀ entry ∈ entries, addressing.Sided side chosen entry)
    (sorted : members.Sorted)
    (failed : addressing.writeAll entries (.obj members) = .error e) :
    addressing.writeAll (entries.filter side) (.obj (part chosen members)) = .error e ∨
      addressing.writeAll (entries.filter fun entry => !side entry)
        (.obj (part (fun key => !chosen key) members)) = .error e := by
  induction entries generalizing members with
  | nil => cases failed
  | cons entry entries ih =>
    obtain ⟨here, sided⟩ := List.forall_mem_cons.1 sided
    rw [writeAll] at failed
    split at failed
    · next left reason wrong =>
      cases failed
      have wrong := congrArg Prod.snd wrong
      cases own : side entry with
      | true =>
        left
        rw [List.filter_cons_of_pos own]
        exact writeAll_cons_error (write_part_error here own wrong)
      | false =>
        right
        rw [List.filter_cons_of_pos (by simp [own])]
        exact writeAll_cons_error (write_part_error here.not (by simp [own]) wrong)
    · next next done =>
      obtain ⟨path, child, -, rfl⟩ := exists_set_of_write done
      rw [writeAll_part_cons here sorted done, writeAll_part_cons here.not sorted done]
      exact ih sided (Entries.sorted_set sorted path.top child) failed

theorem mem_paths_of_mem {path : Path} (mem : entry ∈ entries)
    (read : addressing.parse entry.1 = .ok path) : path ∈ addressing.paths entries :=
  List.mem_map_of_mem (mem_writes_iff.2 ⟨entry.1, mem, read⟩)

/-- Where no name is at the top of paths of both parts, the names of the left part choose its
entries. -/
theorem sided_of_apart {whole left right : Entries Json}
    (union : Entries.DisjointUnion whole left right) (sorted : whole.Sorted)
    (lefts : left.Sorted) (rights : right.Sorted)
    (apart : ∀ path ∈ addressing.paths left, ∀ other ∈ addressing.paths right,
      path.top ≠ other.top) :
    ∀ entry ∈ whole, addressing.Sided (fun entry => Entries.contains entry.1 left)
      (fun name => (addressing.paths left).any (·.top == name)) entry := by
  intro entry mem path read
  cases own : Entries.contains entry.1 left with
  | true =>
    have here : entry ∈ left := by
      rw [← union.filter_left sorted lefts]
      exact List.mem_filter.2 ⟨mem, own⟩
    simp only [own]
    symm
    exact List.any_eq_true.2 ⟨path, mem_paths_of_mem here read, beq_self_eq_true path.top⟩
  | false =>
    have here : entry ∈ right := by
      rw [← union.filter_right sorted rights]
      exact List.mem_filter.2 ⟨mem, by simp [own]⟩
    simp only [own]
    symm
    refine List.any_eq_false.2 fun other also => ?_
    simpa using apart other also path (mem_paths_of_mem here read)

section Nesting

variable {values left right : Table Json}
  (union : Entries.DisjointUnion values.entries left.entries right.entries)
  (sided : ∀ entry ∈ values.entries,
    addressing.Sided (fun entry => Entries.contains entry.1 left.entries) chosen entry)

include union sided

/-- Each part of a table is nested to the part of the document with the names of its side. -/
theorem exists_parts_of_nest (nested : addressing.nest values = .ok document) :
    ∃ members : Entries Json, document = .obj members ∧ members.Sorted ∧
      addressing.nest left = .ok (.obj (part chosen members)) ∧
      addressing.nest right = .ok (.obj (part (fun key => !chosen key) members)) := by
  -- Both parts start from the empty object, as the whole does.
  obtain ⟨members, rfl, sorted, first⟩ := writeAll_part sided Entries.sorted_nil nested
  obtain ⟨also, eq, -, second⟩ :=
    writeAll_part (fun entry mem => (sided entry mem).not) Entries.sorted_nil nested
  cases eq
  rw [union.filter_left values.sorted left.sorted] at first
  rw [union.filter_right values.sorted right.sorted] at second
  exact ⟨members, rfl, sorted, first, second⟩

/-- A table that is not nested has a part that is not nested for the same reason. -/
theorem nest_part_error (failed : addressing.nest values = .error e) :
    addressing.nest left = .error e ∨ addressing.nest right = .error e := by
  have part := exists_part_of_error sided Entries.sorted_nil failed
  rw [union.filter_left values.sorted left.sorted,
    union.filter_right values.sorted right.sorted] at part
  exact part

end Nesting

end Addressing

/-- A table in two parts whose references share no name at the top of a document is nested just
where both parts are. Its document is then the disjoint union of theirs, and where it is not, one
part fails with its error. -/
theorem nest_disjointUnion (addressing : Addressing) (values left right : Table Json)
    (union : Entries.DisjointUnion values.entries left.entries right.entries)
    (apart : ∀ path ∈ addressing.paths left.entries, ∀ other ∈ addressing.paths right.entries,
      path.top ≠ other.top) :
    ((∃ document, addressing.nest values = .ok document) ↔
      (∃ document, addressing.nest left = .ok document) ∧
        ∃ document, addressing.nest right = .ok document) ∧
    (∀ document first second, addressing.nest values = .ok document →
      addressing.nest left = .ok first → addressing.nest right = .ok second →
      document.DisjointUnion first second) ∧
    ∀ e, addressing.nest values = .error e →
      addressing.nest left = .error e ∨ addressing.nest right = .error e := by
  have sided := Addressing.sided_of_apart union values.sorted left.sorted right.sorted apart
  refine ⟨⟨?_, ?_⟩, ?_, fun e => Addressing.nest_part_error union sided⟩
  · rintro ⟨document, nested⟩
    obtain ⟨members, -, -, first, second⟩ := Addressing.exists_parts_of_nest union sided nested
    exact ⟨⟨_, first⟩, _, second⟩
  · rintro ⟨⟨first, one⟩, second, two⟩
    cases nested : addressing.nest values with
    | ok document => exact ⟨document, rfl⟩
    | error e =>
      rcases Addressing.nest_part_error union sided nested with failed | failed
      · rw [failed] at one
        cases one
      · rw [failed] at two
        cases two
  · intro document first second nested one two
    obtain ⟨members, rfl, sorted, here, there⟩ :=
      Addressing.exists_parts_of_nest union sided nested
    rw [here] at one
    rw [there] at two
    cases one
    cases two
    exact ⟨members, _, _, rfl, rfl, rfl, sorted, Entries.sorted_part sorted _,
      Entries.sorted_part sorted _, Entries.disjointUnion_part _ members⟩

/-- A root marker puts a key of one page between two keys of another. -/
theorem nest_interleaved_pages :
    ∃ document, Addressing.standard.nest
        ⟨[("A.X", .str "x"), ("pyWorkPage.B", .str "z"),
          ("pyWorkPage.pyWorkPage.A.Y(2)", .str "y")], by decide⟩ = .ok document ∧
      document.DisjointUnion (.obj [("A", .obj [("X", .str "x"), ("Y", .arr [.null, .str "y"])])])
        (.obj [("B", .str "z")]) := by
  have split := nest_disjointUnion Addressing.standard
    ⟨[("A.X", .str "x"), ("pyWorkPage.B", .str "z"), ("pyWorkPage.pyWorkPage.A.Y(2)", .str "y")],
      by decide⟩
    ⟨[("A.X", .str "x"), ("pyWorkPage.pyWorkPage.A.Y(2)", .str "y")], by decide⟩
    ⟨[("pyWorkPage.B", .str "z")], by decide⟩ ?_ ?_
  · obtain ⟨document, nested⟩ := split.1.2 ⟨⟨_, rfl⟩, _, rfl⟩
    exact ⟨document, nested, split.2.1 _ _ _ nested rfl rfl⟩
  · exact Entries.disjointUnion_part (· != "pyWorkPage.B") _
  · have first : Addressing.standard.paths
        [("A.X", .str "x"), ("pyWorkPage.pyWorkPage.A.Y(2)", .str "y")] =
        [⟨[.page "A"], .page "X"⟩, ⟨[.page "A"], .listItem "Y" 1⟩] := rfl
    have second : Addressing.standard.paths [("pyWorkPage.B", .str "z")] =
        [⟨[], .page "B"⟩] := rfl
    rw [first, second]
    decide

end CaseForm

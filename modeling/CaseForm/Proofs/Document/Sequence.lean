import CaseForm.Proofs.Document.Places

/-!
What a sequence of writes builds.

Scalars that are written to different addresses of the empty document leave a document that can be
told from the addresses alone, but for what fills the gaps of its lists (`Drawn`). At every address

* nothing stands where a list has given way to an object around it;
* else an object stands where some path goes into a member, and an array where all paths go into
  items;
* else a value stands where it was written;
* else what fills a list stands there, chosen by the first path that went past.

One write keeps this (`Drawn.put`), hence a sequence does (`Drawn.putAll`). A sequence fails just
where a path is blocked by those before it (`Drawn.putAll_eq_none_iff`). By reference,
`Addressing.writeAll_eq_ok_iff` makes a sequence of writes of the entries that can be read.
-/

namespace CaseForm

namespace Document

/-- Writes values along paths, one after another. -/
def putAll : List (Path × Json) → Json → Option Json
  | [], document => some document
  | (path, value) :: writes, document => (path.put value document).bind (putAll writes)

end Document

/-- No two of the writes go to one address. -/
def Apart (writes : List (Path × Json)) : Prop :=
  writes.Pairwise fun a b => a.1.address ≠ b.1.address

instance (writes : List (Path × Json)) : Decidable (Apart writes) :=
  inferInstanceAs (Decidable (writes.Pairwise _))

/-! ### The document that is drawn -/

/-- The document that scalars written along paths leave behind, at every address. -/
structure Drawn (writes : List (Path × Json)) (document : Json) : Prop where
  root : document.outline = .obj []
  scalar : ∀ write ∈ writes, write.2.isScalar = true
  lost : ∀ address, Lost (writes.map (·.1)) address → document.get? address = none
  opened : ∀ address, ¬ Lost (writes.map (·.1)) address → Opened (writes.map (·.1)) address →
    ∃ found, document.get? address = some found ∧ found.outline = .obj [] ∧
      Document.occupied found = true
  listed : ∀ address, ¬ Lost (writes.map (·.1)) address → ¬ Opened (writes.map (·.1)) address →
    Listed (writes.map (·.1)) address →
    ∃ found, document.get? address = some found ∧ found.outline = .arr []
  held : ∀ write ∈ writes, ¬ Lost (writes.map (·.1)) write.1.address →
    ¬ Opened (writes.map (·.1)) write.1.address → ¬ Listed (writes.map (·.1)) write.1.address →
    document.get? write.1.address = some write.2
  filled : ∀ address, address ≠ [] → Gap (writes.map (·.1)) address →
    document.get? address = filling (writes.map (·.1)) address

namespace Drawn

variable {writes : List (Path × Json)} {document next value : Json} {path : Path}

/-- Nothing is drawn in the empty document. -/
theorem nil : Drawn [] (.obj []) where
  root := rfl
  scalar := by simp
  lost := by simp [Lost]
  opened := by simp [Opened]
  listed := by simp [Listed]
  held := by simp
  filled := by
    intro address below _
    cases address with
    | nil => exact absurd rfl below
    | cons key rest => cases key <;> rfl

/-- What stands somewhere is not lost. -/
theorem not_lost (drawn : Drawn writes document) {address : Address} {found : Json}
    (there : document.get? address = some found) : ¬ Lost (writes.map (·.1)) address := by
  intro lost
  rw [drawn.lost address lost] at there
  cases there

theorem outline_of_opened (drawn : Drawn writes document) {address : Address} {found : Json}
    (there : document.get? address = some found) (opened : Opened (writes.map (·.1)) address) :
    found.outline = .obj [] := by
  obtain ⟨object, here, outline, -⟩ := drawn.opened address (drawn.not_lost there) opened
  rw [there] at here
  cases here
  exact outline

theorem outline_of_listed (drawn : Drawn writes document) {address : Address} {found : Json}
    (there : document.get? address = some found) (closed : ¬ Opened (writes.map (·.1)) address)
    (listed : Listed (writes.map (·.1)) address) : found.outline = .arr [] := by
  obtain ⟨array, here, outline⟩ := drawn.listed address (drawn.not_lost there) closed listed
  rw [there] at here
  cases here
  exact outline

/-- What is no place on the way of a path is no container with anything in it. -/
theorem not_occupied (drawn : Drawn writes document) {place : Address} {found : Json}
    (there : document.get? place = some found) (later : place ≠ [])
    (closed : ¬ Opened (writes.map (·.1)) place) (single : ¬ Listed (writes.map (·.1)) place) :
    Document.occupied found = false := by
  rcases place_cases _ place (drawn.not_lost there) with
    opened | ⟨-, listed⟩ | ⟨-, -, path, mem, ends⟩ | gap
  · exact absurd opened closed
  · exact absurd listed single
  · obtain ⟨write, written, rfl⟩ := List.mem_map.1 mem
    have kept := drawn.not_lost there
    have held := drawn.held write written (by rwa [ends]) (by rwa [ends]) (by rwa [ends])
    rw [ends, there] at held
    cases held
    exact Document.not_occupied_of_isScalar (drawn.scalar write written)
  · have filled := drawn.filled place later gap
    rw [there] at filled
    rcases filling_cases (writes.map (·.1)) place with eq | eq | eq <;>
      · rw [eq] at filled
        cases filled
        try rfl

/-! ### One more write -/

/-- A list that is needed where an object has been made is refused. -/
theorem put_eq_none_of_lists (drawn : Drawn writes document) {place : Address}
    (lists : path.Lists place) (opened : Opened (writes.map (·.1)) place) :
    path.put value document = none := by
  by_cases lost : Lost (writes.map (·.1)) place
  · -- The object that the place is lost in stands before it, and is refused as well.
    obtain ⟨list, index, rest, outer, within⟩ := lost_iff.1 lost
    have shorter : list.length < place.length := by
      rw [within, List.length_append, List.length_cons]
      omega
    obtain ⟨item, tail, eq⟩ := lists
    rw [within, List.append_assoc] at eq
    exact drawn.put_eq_none_of_lists ⟨index, _, eq⟩ outer
  · obtain ⟨found, there, object, -⟩ := drawn.opened place lost opened
    exact Path.put_eq_none_iff.2 ⟨place, found, there, .inl ⟨lists, object⟩⟩
termination_by place.length

/-- A write fails just where its path is blocked by the paths before it. -/
theorem put_eq_none_iff (drawn : Drawn writes document) :
    path.put value document = none ↔ Blocked (writes.map (·.1)) path := by
  constructor
  · intro refused
    obtain ⟨place, found, there, clash⟩ := Path.put_eq_none_iff.1 refused
    have kept := drawn.not_lost there
    rcases clash with ⟨lists, object⟩ | ⟨opens, later, shut, array⟩
    · refine ⟨place, .inl ⟨lists, Classical.byContradiction ?_⟩⟩
      intro closed
      rcases place_cases _ place kept with
        opened | ⟨-, listed⟩ | ⟨-, single, other, mem, ends⟩ | gap
      · exact closed opened
      · have array := drawn.outline_of_listed there closed listed
        rw [object] at array
        cases array
      · obtain ⟨write, written, rfl⟩ := List.mem_map.1 mem
        have held := drawn.held write written (by rwa [ends]) (by rwa [ends]) (by rwa [ends])
        rw [ends, there] at held
        cases held
        have scalar := drawn.scalar write written
        rw [← Json.isScalar_outline, object] at scalar
        cases scalar
      · -- A gap is an item, and a list is a member.
        obtain ⟨before, name, rfl⟩ := lists.member
        rw [drawn.filled _ (by simp) gap] at there
        obtain ⟨other, -, fills⟩ := List.exists_of_findSome?_eq_some there
        obtain ⟨list, index, item, rest, -, eq, -⟩ := Address.eq_of_fills fills
        have absurd := (List.append_inj' eq rfl).2
        cases absurd
    · have closed : ¬ Opened (writes.map (·.1)) place := by
        intro opened
        have object := drawn.outline_of_opened there opened
        rw [array] at object
        cases object
      refine ⟨place, .inr ⟨opens, shut, Classical.byContradiction ?_, closed⟩⟩
      intro single
      have free := drawn.not_occupied there later closed single
      cases found with
      | arr items => cases free
      | _ => cases array
  · rintro ⟨place, ⟨lists, opened⟩ | ⟨opens, shut, listed, closed⟩⟩
    · exact drawn.put_eq_none_of_lists lists opened
    · by_cases lost : Lost (writes.map (·.1)) place
      · obtain ⟨list, index, rest, outer, rfl⟩ := lost_iff.1 lost
        obtain ⟨name, tail, eq⟩ := opens
        rw [List.append_assoc] at eq
        exact drawn.put_eq_none_of_lists ⟨index, _, eq⟩ outer
      · obtain ⟨found, there, array⟩ := drawn.listed place lost closed listed
        refine Path.put_eq_none_iff.2 ⟨place, found, there, .inr ⟨opens, ?_, shut, array⟩⟩
        rintro rfl
        obtain ⟨other, -, lists⟩ := listed
        obtain ⟨before, name, eq⟩ := lists.member
        simp at eq

section Step

variable (drawn : Drawn writes document) (written : path.put value document = some next)
  (scalar : value.isScalar = true)

include drawn written

theorem not_blocked : ¬ Blocked (writes.map (·.1)) path := by
  intro blocked
  rw [drawn.put_eq_none_iff.2 blocked] at written
  cases written

/-- A write leaves its value at its address where no other path goes on from there. -/
theorem get?_put_of_last (closed : ¬ Opened (writes.map (·.1)) path.address)
    (single : ¬ Listed (writes.map (·.1)) path.address) : next.get? path.address = some value := by
  have self := Path.get?_put_self written []
  rw [List.append_nil] at self
  rw [self, Json.get?_nil, Document.overwrite]
  cases there : document.get? path.address with
  | none => rfl
  | some found =>
    have later : path.address ≠ [] := by
      obtain ⟨name, rest, keys⟩ := Path.exists_keys_eq_cons path.containers path.leaf
      rw [Path.address_eq, keys]
      simp
    rw [Option.getD_some, drawn.not_occupied there later closed single]
    rfl

include scalar

/-- A write brings back nothing that is lost. -/
theorem get?_put_of_lost {address : Address} (lost : Lost (writes.map (·.1)) address) :
    next.get? address = none := by
  have free := drawn.not_blocked written
  by_cases loses : path.Loses address
  · exact Path.get?_put_of_loses written loses
  rw [Path.get?_put_scalar written scalar (fun leads => not_lost_of_leads free leads lost) loses,
    drawn.lost address lost, Option.none_or]
  cases fills : path.address.fills address with
  | none => rfl
  | some filler =>
    obtain ⟨list, index, other, rest, split, rfl, -⟩ := Address.eq_of_fills fills
    rcases lost_concat_key lost with outer | opened
    · exact absurd outer (not_lost_of_leads free (split ▸ List.prefix_append _ _))
    · exact absurd opened (not_opened_of_lists free ⟨index, rest, split⟩)

/-- A write leaves the objects of others where they are. -/
theorem get?_put_of_opened {address : Address} {found : Json}
    (there : document.get? address = some found) (occupied : Document.occupied found = true)
    (opened : Opened (writes.map (·.1)) address) (keeps : ¬ path.Loses address)
    (opens : ¬ path.Opens address) : next.get? address = some found := by
  have free := drawn.not_blocked written
  by_cases leads : address <+: path.address
  · rcases Path.prefix_iff.1 leads with rfl | absurd | lists
    · exact Path.get?_put_of_occupied written there occupied
    · exact (opens absurd).elim
    · exact (not_opened_of_lists free lists opened).elim
  · rw [Path.get?_put_scalar written scalar leads keeps, there, Option.some_or]

/-- A scalar that is written to a new address is drawn into the document. -/
theorem put (fresh : ∀ write ∈ writes, write.1.address ≠ path.address) :
    Drawn (writes ++ [(path, value)]) next := by
  have paths : (writes ++ [(path, value)]).map (·.1) = writes.map (·.1) ++ [path] :=
    List.map_append
  constructor <;> try rw [paths]
  case root => exact Path.outline_put written
  case scalar =>
    intro write mem
    rcases List.mem_append.1 mem with old | new
    · exact drawn.scalar write old
    · cases List.mem_singleton.1 new
      exact scalar
  case lost =>
    intro address lost
    rcases lost_concat_iff.1 lost with old | loses
    · exact drawn.get?_put_of_lost written scalar old
    · exact Path.get?_put_of_loses written loses
  case opened =>
    intro address kept opened
    rw [lost_concat_iff, not_or] at kept
    by_cases opens : path.Opens address
    · obtain ⟨name, rest, split⟩ := opens
      exact Path.get?_put_before written split
    have old := (opened_concat_iff.1 opened).resolve_right opens
    obtain ⟨found, there, object, occupied⟩ := drawn.opened address kept.1 old
    exact ⟨found, drawn.get?_put_of_opened written scalar there occupied old kept.2 opens, object,
      occupied⟩
  case listed =>
    intro address kept closed listed
    rw [lost_concat_iff, not_or] at kept
    rw [opened_concat_iff, not_or] at closed
    by_cases lists : path.Lists address
    · obtain ⟨index, rest, split⟩ := lists
      obtain ⟨container, there, array, -⟩ := Path.get?_put_before written split
      exact ⟨container, there, array⟩
    have old := (listed_concat_iff.1 listed).resolve_right lists
    obtain ⟨found, there, array⟩ := drawn.listed address kept.1 closed.1 old
    refine ⟨found, ?_, array⟩
    by_cases leads : address <+: path.address
    · rcases Path.prefix_iff.1 leads with rfl | opens | absurd
      · refine Path.get?_put_of_occupied written there ?_
        cases found <;> first | rfl | cases array
      · exact (closed.2 opens).elim
      · exact (lists absurd).elim
    · rw [Path.get?_put_scalar written scalar leads kept.2, there, Option.some_or]
  case held =>
    intro write mem kept closed single
    rw [lost_concat_iff, not_or] at kept
    rw [opened_concat_iff, not_or] at closed
    rw [listed_concat_iff, not_or] at single
    rcases List.mem_append.1 mem with old | new
    · rw [Path.get?_put_scalar written scalar _ kept.2,
        drawn.held write old kept.1 closed.1 single.1, Option.some_or]
      intro leads
      rcases Path.prefix_iff.1 leads with ends | opens | lists
      · exact fresh write old ends.symm
      · exact closed.2 opens
      · exact single.2 lists
    · cases List.mem_singleton.1 new
      exact drawn.get?_put_of_last written closed.1 single.1
  case filled =>
    intro address later gap
    obtain ⟨gap, leads, keeps⟩ := gap_concat_iff.1 gap
    rw [Path.get?_put_scalar written scalar leads keeps, drawn.filled address later gap,
      filling_concat]

end Step

/-! ### Whole sequences -/

theorem fresh_of_apart {write : Path × Json} {rest : List (Path × Json)}
    (apart : Apart (writes ++ write :: rest)) :
    ∀ other ∈ writes, other.1.address ≠ write.1.address := by
  intro other mem
  exact (List.pairwise_append.1 apart).2.2 other mem write List.mem_cons_self

/-- What is drawn stays drawn through a sequence of writes. -/
theorem putAll {rest : List (Path × Json)} (drawn : Drawn writes document)
    (written : Document.putAll rest document = some next)
    (scalar : ∀ write ∈ rest, write.2.isScalar = true) (apart : Apart (writes ++ rest)) :
    Drawn (writes ++ rest) next := by
  induction rest generalizing writes document with
  | nil =>
    cases written
    rwa [List.append_nil]
  | cons write rest ih =>
    obtain ⟨middle, first, after⟩ := Option.bind_eq_some_iff.1 written
    obtain ⟨plain, scalar⟩ := List.forall_mem_cons.1 scalar
    have one := drawn.put first plain (fresh_of_apart apart)
    rw [List.append_cons] at apart ⊢
    exact ih one after scalar apart

/-- A sequence of writes fails just where one of the paths is blocked by those before it. -/
theorem putAll_eq_none_iff {rest : List (Path × Json)} (drawn : Drawn writes document)
    (scalar : ∀ write ∈ rest, write.2.isScalar = true) (apart : Apart (writes ++ rest)) :
    Document.putAll rest document = none ↔
      ∃ before path after, rest.map (·.1) = before ++ path :: after ∧
        Blocked (writes.map (·.1) ++ before) path := by
  induction rest generalizing writes document with
  | nil => simp [Document.putAll]
  | cons write rest ih =>
    obtain ⟨plain, scalar⟩ := List.forall_mem_cons.1 scalar
    have fresh := fresh_of_apart apart
    have blocked : write.1.put write.2 document = none ↔ Blocked (writes.map (·.1)) write.1 :=
      drawn.put_eq_none_iff
    rw [List.append_cons] at apart
    -- The first write fails, or the rest goes on from what it draws.
    cases first : write.1.put write.2 document with
    | none =>
      simp only [Document.putAll, first, Option.bind_none, true_iff]
      exact ⟨[], write.1, rest.map (·.1), rfl, by rw [List.append_nil]; exact blocked.1 first⟩
    | some middle =>
      have free : ¬ Blocked (writes.map (·.1)) write.1 := by
        rw [← blocked, first]
        intro absurd
        cases absurd
      have one := drawn.put first plain fresh
      simp only [Document.putAll, first, Option.bind_some, ih one scalar apart, List.map_append,
        List.map_cons, List.map_nil, List.append_assoc, List.singleton_append]
      constructor
      · rintro ⟨before, path, after, eq, later⟩
        exact ⟨write.1 :: before, path, after, by rw [eq]; rfl, later⟩
      · rintro ⟨before, path, after, eq, later⟩
        cases before with
        | nil =>
          cases eq
          rw [List.append_nil] at later
          exact absurd later free
        | cons head before =>
          obtain ⟨rfl, tail⟩ := List.cons.inj eq
          exact ⟨before, path, after, tail, later⟩

end Drawn

namespace Document

variable {writes : List (Path × Json)} {document : Json}

/-- Scalars written to different addresses of the empty document are drawn. -/
theorem drawn_of_putAll (written : putAll writes (.obj []) = some document)
    (scalar : ∀ write ∈ writes, write.2.isScalar = true) (apart : Apart writes) :
    Drawn writes document :=
  Drawn.nil.putAll written scalar apart

/-- Scalars are written to different addresses of the empty document unless their paths obstruct
each other. -/
theorem putAll_eq_none_iff (scalar : ∀ write ∈ writes, write.2.isScalar = true)
    (apart : Apart writes) :
    putAll writes (.obj []) = none ↔ Obstructed (writes.map (·.1)) :=
  Drawn.nil.putAll_eq_none_iff scalar apart

/-- A sequence of writes keeps a document in order. -/
theorem ordered_putAll {old new : Json} (written : putAll writes old = some new)
    (fine : ∀ write ∈ writes, write.2.Ordered) (ordered : old.Ordered) : new.Ordered := by
  induction writes generalizing old with
  | nil =>
    cases written
    exact ordered
  | cons write writes ih =>
    obtain ⟨middle, first, rest⟩ := Option.bind_eq_some_iff.1 written
    obtain ⟨here, fine⟩ := List.forall_mem_cons.1 fine
    exact ih rest fine (Path.ordered_put first here ordered)

end Document

/-! ### By reference -/

namespace Addressing

variable (addressing : Addressing)

/-- The path of a reference, if it can be read. -/
def path? (reference : String) : Option Path := (addressing.parse reference).toOption

/-- The writes of the entries whose references can be read. -/
def writes (entries : List (String × Json)) : List (Path × Json) :=
  entries.filterMap fun entry => (addressing.path? entry.1).map fun path => (path, entry.2)

/-- The paths of the entries whose references can be read. -/
def paths (entries : List (String × Json)) : List Path := (addressing.writes entries).map (·.1)

variable {addressing}

theorem path?_eq_some_iff {reference : String} {path : Path} :
    addressing.path? reference = some path ↔ addressing.parse reference = .ok path := by
  unfold path?
  cases addressing.parse reference <;> simp [Except.toOption]

theorem writes_append (entries others : List (String × Json)) :
    addressing.writes (entries ++ others) = addressing.writes entries ++ addressing.writes others :=
  List.filterMap_append

theorem writes_cons {reference : String} {path : Path}
    (read : addressing.parse reference = .ok path) (value : Json)
    (entries : List (String × Json)) :
    addressing.writes ((reference, value) :: entries) =
      (path, value) :: addressing.writes entries := by
  rw [writes, List.filterMap_cons_some (by rw [path?_eq_some_iff.2 read]; rfl)]
  rfl

theorem mem_writes_iff {entries : List (String × Json)} {path : Path} {value : Json} :
    (path, value) ∈ addressing.writes entries ↔
      ∃ reference, (reference, value) ∈ entries ∧ addressing.parse reference = .ok path := by
  simp only [writes, List.mem_filterMap, Option.map_eq_some_iff, path?_eq_some_iff, Prod.mk.injEq]
  constructor
  · rintro ⟨⟨reference, _⟩, mem, _, read, rfl, rfl⟩
    exact ⟨reference, mem, read⟩
  · rintro ⟨reference, mem, read⟩
    exact ⟨_, mem, path, read, rfl, rfl⟩

/-- What holds of all values holds of those that are written. -/
theorem forall_writes {entries : List (String × Json)} (holds : Json → Prop)
    (all : ∀ entry ∈ entries, holds entry.2) :
    ∀ write ∈ addressing.writes entries, holds write.2 := by
  rintro ⟨path, value⟩ mem
  obtain ⟨reference, entry, -⟩ := mem_writes_iff.1 mem
  exact all _ entry

/-- A sequence of entries is written entry by entry. -/
theorem writeAll_cons_eq_ok_iff {entry : String × Json} {entries : List (String × Json)}
    {old new : Json} :
    addressing.writeAll (entry :: entries) old = .ok new ↔
      ∃ next, addressing.write entry.1 entry.2 old = (next, .ok ()) ∧
        addressing.writeAll entries next = .ok new := by
  rw [writeAll]
  obtain ⟨next, result⟩ := addressing.write entry.1 entry.2 old
  cases result with
  | error e => simp
  | ok done => simp

/-- Entries are written if all their references can be read and the writes succeed. -/
theorem writeAll_eq_ok_iff {entries : List (String × Json)} {old new : Json} :
    addressing.writeAll entries old = .ok new ↔
      (∀ entry ∈ entries, addressing.path? entry.1 ≠ none) ∧
        Document.putAll (addressing.writes entries) old = some new := by
  induction entries generalizing old with
  | nil => simp [writeAll, writes, Document.putAll]
  | cons entry entries ih =>
    simp only [writeAll_cons_eq_ok_iff, write_eq_ok_iff, ih, List.mem_cons, forall_eq_or_imp]
    constructor
    · rintro ⟨next, ⟨path, read, written⟩, readable, rest⟩
      refine ⟨⟨by simp [path?_eq_some_iff.2 read], readable⟩, ?_⟩
      rw [writes_cons read]
      exact Option.bind_eq_some_iff.2 ⟨next, written, rest⟩
    · rintro ⟨⟨readable, others⟩, written⟩
      obtain ⟨path, read⟩ := Option.ne_none_iff_exists'.1 readable
      rw [path?_eq_some_iff] at read
      rw [writes_cons read] at written
      obtain ⟨next, first, rest⟩ := Option.bind_eq_some_iff.1 written
      exact ⟨next, ⟨path, read, first⟩, others, rest⟩

end Addressing

end CaseForm

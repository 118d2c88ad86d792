import CaseForm.Proofs.Document.Overlay
import CaseForm.Proofs.Form.Responses

/-!
Values set in a refresh, and values set before it.

A refresh may take pairs along, which are written into its document after all edited values
(`Form.threaded`). Or the pairs are set first, and a refresh without pairs writes all values in the
order of their references (`Form.stepped`). Both resolve the pairs against the same values, and
both write along the same paths (`Form.selects_stepped`). They differ in the order of the writes to
a slot, and in the old values under the references of the pairs, which only the first way writes.

* `Addressing.grow_extend`: this comes to nothing in a slot that a pair alone decides;
* `threaded_pairs`: when the two documents are equal.

They are not always: of two spellings of one slot, and of a container and a value in its place, the
pair may win one way and lose the other.
-/

namespace CaseForm

/-- A resolved property is in key order if the property and the values are. -/
theorem ordered_resolveProperty {values : Table Json} {property : Json}
    (fine : ∀ entry ∈ values.entries, entry.2.Ordered) (ordered : property.Ordered) :
    (resolveProperty values property).Ordered := by
  unfold resolveProperty
  split
  · split
    · trivial
    · next text _ _ _ =>
      cases there : values.get? (expandRelative text) with
      | none => trivial
      | some value => exact fine _ ((values.mem_entries_iff _ value).2 there)
    · exact ordered
  · exact ordered

namespace Form

-- The step is read off the recursion, without a look into what writing a reference is.
seal Addressing.write in
theorem writePairs_cons (form : Form) (pair : SetValuePair) (pairs : List SetValuePair)
    (document : Json) :
    form.writePairs (pair :: pairs) document =
      match form.addressing.write (expandRelative pair.name)
        (resolveProperty form.values pair.value) document with
      | (_, .error error) => .error error
      | (next, .ok ()) => form.writePairs pairs next := rfl

/-- Pairs are written as they are resolved, one after another. -/
theorem writePairs_eq (form : Form) (pairs : List SetValuePair) (document : Json) :
    form.writePairs pairs document =
      form.addressing.writeAll (form.resolvePairs pairs) document := by
  induction pairs generalizing document with
  | nil => rfl
  | cons pair pairs ih =>
    rw [writePairs_cons, resolvePairs, List.map_cons, ← resolvePairs, Addressing.writeAll]
    generalize form.addressing.write (expandRelative pair.name)
      (resolveProperty form.values pair.value) document = outcome
    obtain ⟨next, result⟩ := outcome
    cases result with
    | error error => rfl
    | ok done => exact ih next

/-- What a refresh with pairs writes: the edited values, and then the pairs. -/
def threaded (form : Form) (pairs : List SetValuePair) : List (String × Json) :=
  form.values.entries ++ form.resolvePairs pairs

/-- What a refresh without pairs writes once the pairs are set. -/
def stepped (form : Form) (pairs : List SetValuePair) : List (String × Json) :=
  (form.setValues pairs).values.entries

end Form

/-! ### The same paths -/

namespace Table

variable {α : Type} {table : Table α} {pairs : List (String × α)}

/-- What a table lists after pairs were written was listed before or is one of the pairs. -/
theorem mem_of_mem_extend {entry : String × α} (mem : entry ∈ (table.extend pairs).entries) :
    entry ∈ table.entries ++ pairs := by
  have there := ((table.extend pairs).mem_entries_iff entry.1 entry.2).1 mem
  rw [List.mem_append]
  rcases get?_extend_cases table pairs entry.1 with ⟨value, pair, here⟩ | ⟨-, here⟩
  · rw [here] at there
    cases there
    exact .inr pair
  · rw [here] at there
    exact .inl ((table.mem_entries_iff entry.1 entry.2).2 there)

/-- What was listed or is one of the pairs has its key in the table. -/
theorem exists_mem_extend {key : String} {value : α} (mem : (key, value) ∈ table.entries ++ pairs) :
    ∃ later, (key, later) ∈ (table.extend pairs).entries := by
  rcases get?_extend_cases table pairs key with ⟨later, -, here⟩ | ⟨absent, here⟩
  · exact ⟨later, ((table.extend pairs).mem_entries_iff key later).2 here⟩
  · have listed := (List.mem_append.1 mem).resolve_right (absent value)
    rw [(table.mem_entries_iff key value).1 listed] at here
    exact ⟨value, ((table.extend pairs).mem_entries_iff key value).2 here⟩

end Table

theorem Form.selects_stepped (form : Form) (pairs : List SetValuePair) :
    Selects (form.addressing.writes (form.stepped pairs))
      (form.addressing.writes (form.threaded pairs)) where
  subset := by
    rintro ⟨path, value⟩ mem
    obtain ⟨reference, there, read⟩ := Addressing.mem_writes_iff.1 mem
    exact Addressing.mem_writes_iff.2 ⟨reference, Table.mem_of_mem_extend there, read⟩
  paths := by
    intro path mem
    obtain ⟨⟨path, value⟩, member, rfl⟩ := List.mem_map.1 mem
    obtain ⟨reference, there, read⟩ := Addressing.mem_writes_iff.1 member
    obtain ⟨later, listed⟩ := Table.exists_mem_extend there
    exact List.mem_map_of_mem (f := (·.1)) (Addressing.mem_writes_iff.2 ⟨reference, listed, read⟩)

/-! ### Slots that the pairs alone decide -/

namespace Document

variable {address : Address} {held : Json}

theorem grow_append (writes others : List (Path × Json)) :
    grow address held (writes ++ others) = grow address (grow address held writes) others := by
  induction writes generalizing held with
  | nil => rfl
  | cons write writes ih => exact ih

/-- Writes that do not lead to a slot do not matter to it. -/
theorem grow_cons_of_not_leads {path : Path} (beside : ¬ address <+: path.address) (value : Json)
    (writes : List (Path × Json)) :
    grow address held ((path, value) :: writes) = grow address held writes := by
  rw [grow, if_neg beside]

/-- A write to a slot is written over what stands there. -/
theorem grow_cons_self (path : Path) (value : Json) (writes : List (Path × Json)) :
    grow path.address held ((path, value) :: writes) =
      grow path.address (overwrite value held) writes := by
  have ends : path.strides.drop path.address.length = [] := by
    rw [← Path.map_key_strides, List.length_map, List.drop_length]
  rw [grow, if_pos List.prefix_rfl, ends]
  rfl

end Document

namespace Addressing

open Document (grow overwrite occupied grow_append)

/-- The reference leads to a slot, or through it. -/
def Leads (addressing : Addressing) (address : Address) (reference : String) : Prop :=
  ∃ path, addressing.parse reference = .ok path ∧ address <+: path.address

/-- The slot is that of the reference, and no other of the entries leads there; nor is a populated
container written there. -/
structure Alone (addressing : Addressing) (address : Address) (reference : String)
    (entries : List (String × Json)) : Prop where
  slot : ∃ path, addressing.parse reference = .ok path ∧ path.address = address
  only : ∀ entry ∈ entries, addressing.Leads address entry.1 →
    entry.1 = reference ∧ occupied entry.2 = false

variable {addressing : Addressing} {address : Address} {held value : Json} {key : String}
  {entries : List (String × Json)}

theorem grow_writes_cons_of_not_leads (beside : ¬ addressing.Leads address key) :
    grow address held (addressing.writes ((key, value) :: entries)) =
      grow address held (addressing.writes entries) := by
  cases read : addressing.path? key with
  | none => rw [writes, List.filterMap_cons_none (by rw [read]; rfl), ← writes]
  | some path =>
    rw [path?_eq_some_iff] at read
    rw [writes_cons read]
    exact Document.grow_cons_of_not_leads (fun leads => beside ⟨path, read, leads⟩) _ _

theorem grow_writes_of_not_leads
    (beside : ∀ entry ∈ entries, ¬ addressing.Leads address entry.1) :
    grow address held (addressing.writes entries) = held := by
  induction entries with
  | nil => rfl
  | cons entry entries ih =>
    obtain ⟨here, beside⟩ := List.forall_mem_cons.1 beside
    rw [grow_writes_cons_of_not_leads here, ih beside]

theorem grow_writes_append (others : List (String × Json)) :
    grow address held (addressing.writes (entries ++ others)) =
      grow address (grow address held (addressing.writes entries)) (addressing.writes others) := by
  rw [writes_append, grow_append]

/-- An entry that does not lead to a slot may be set among others without effect on it. -/
theorem grow_set_of_not_leads (beside : ¬ addressing.Leads address key) :
    grow address held (addressing.writes (Entries.set key value entries)) =
      grow address held (addressing.writes entries) := by
  induction entries generalizing held with
  | nil => exact grow_writes_cons_of_not_leads beside
  | cons entry entries ih =>
    obtain ⟨other, old⟩ := entry
    simp only [Entries.set]
    split
    · next same =>
      subst same
      rw [grow_writes_cons_of_not_leads beside, grow_writes_cons_of_not_leads beside]
    · split
      · exact grow_writes_cons_of_not_leads beside
      · rw [← List.singleton_append, grow_writes_append, ih, ← grow_writes_append,
          List.singleton_append]

/-- An entry that alone leads to its slot is written over what stands there, wherever it is set. -/
theorem grow_set_of_alone (alone : addressing.Alone address key entries)
    (sorted : Entries.Sorted entries) :
    grow address held (addressing.writes (Entries.set key value entries)) =
      overwrite value held := by
  obtain ⟨⟨path, read, rfl⟩, only⟩ := alone
  have first (rest : List (String × Json))
      (beside : ∀ entry ∈ rest, ¬ addressing.Leads path.address entry.1) :
      grow path.address held (addressing.writes ((key, value) :: rest)) = overwrite value held := by
    rw [writes_cons read, Document.grow_cons_self, grow_writes_of_not_leads beside]
  induction entries with
  | nil => exact first [] nofun
  | cons entry entries ih =>
    obtain ⟨other, old⟩ := entry
    obtain ⟨below, sorted⟩ := List.pairwise_cons.1 sorted
    rw [List.forall_mem_cons] at only
    obtain ⟨here, only⟩ := only
    simp only [Entries.set]
    split
    · next same =>
      refine first entries fun entry mem leads => ?_
      have before := below entry mem
      rw [(only entry mem leads).1, ← same] at before
      exact String.lt_irrefl _ before
    · next apart =>
      split
      · next before =>
        refine first _ (List.forall_mem_cons.2 ⟨fun leads => apart (here leads).1, ?_⟩)
        intro entry mem leads
        have later := below entry mem
        rw [(only entry mem leads).1] at later
        exact String.lt_irrefl _ (String.lt_trans before later)
      · rw [grow_writes_cons_of_not_leads fun leads => apart (here leads).1]
        exact ih sorted only

/-- A slot in which no populated container is written holds none. -/
theorem free_grow (alone : addressing.Alone address key entries) (free : occupied held = false) :
    occupied (grow address held (addressing.writes entries)) = false := by
  obtain ⟨⟨path, read, rfl⟩, only⟩ := alone
  induction entries generalizing held with
  | nil => exact free
  | cons entry entries ih =>
    obtain ⟨other, old⟩ := entry
    rw [List.forall_mem_cons] at only
    obtain ⟨here, only⟩ := only
    by_cases leads : addressing.Leads path.address other
    · obtain ⟨rfl, plain⟩ := here leads
      rw [writes_cons read, Document.grow_cons_self]
      refine ih ?_ only
      rwa [Document.overwrite_of_free old free]
    · rw [grow_writes_cons_of_not_leads leads]
      exact ih free only

/-- In a slot that an entry alone leads to, or does not lead to, it does not matter whether the
entry is written last or where its reference stands. -/
theorem grow_insert (table : Table Json)
    (decides : addressing.Leads address key → addressing.Alone address key table.entries) :
    grow address .null (addressing.writes (table.entries ++ [(key, value)])) =
      grow address .null (addressing.writes (table.insert key value).entries) := by
  rw [grow_writes_append, Table.insert]
  by_cases leads : addressing.Leads address key
  · have alone := decides leads
    have free : occupied (grow address .null (addressing.writes table.entries)) = false :=
      free_grow alone rfl
    rw [grow_set_of_alone alone table.sorted]
    obtain ⟨⟨path, read, rfl⟩, -⟩ := alone
    rw [writes_cons read, Document.grow_cons_self, Document.overwrite_of_free value free]
    rfl
  · rw [grow_set_of_not_leads leads, grow_writes_cons_of_not_leads leads]
    rfl

/-- In a slot to which each of the pairs leads alone, or not at all, it does not matter whether the
pairs are written last or where their references stand. -/
theorem grow_extend {pairs : List (String × Json)} (table : Table Json)
    (decides : ∀ pair ∈ pairs, addressing.Leads address pair.1 →
      addressing.Alone address pair.1 (table.entries ++ pairs)) :
    grow address .null (addressing.writes (table.entries ++ pairs)) =
      grow address .null (addressing.writes (table.extend pairs).entries) := by
  induction pairs generalizing table with
  | nil => rw [List.append_nil, Table.extend_nil]
  | cons pair pairs ih =>
    obtain ⟨here, decides⟩ := List.forall_mem_cons.1 decides
    rw [List.append_cons, grow_writes_append, grow_insert table, ← grow_writes_append,
      Table.extend_cons]
    · refine ih _ fun other mem leads => ?_
      obtain ⟨slot, only⟩ := decides other mem leads
      refine ⟨slot, fun entry there => only entry ?_⟩
      rcases List.mem_append.1 there with listed | later
      · rcases Entries.mem_set listed with rfl | old
        · exact List.mem_append_right _ List.mem_cons_self
        · exact List.mem_append_left _ old
      · exact List.mem_append_right _ (List.mem_cons_of_mem _ later)
    · intro leads
      obtain ⟨slot, only⟩ := here leads
      exact ⟨slot, fun entry there => only entry (List.mem_append_left _ there)⟩

/-- A reference whose slot no other of the entries addresses, and nothing populated is written there
or around it. -/
structure Sole (addressing : Addressing) (reference : String) (entries : List (String × Json)) :
    Prop where
  only : ∀ path, addressing.parse reference = .ok path → ∀ entry ∈ entries, ∀ other,
    addressing.parse entry.1 = .ok other → other.address = path.address → entry.1 = reference
  plain : ∀ path, addressing.parse reference = .ok path → ∀ write ∈ addressing.writes entries,
    write.1.address <+: path.address → occupied write.2 = false

/-- In a slot that is decided on its own, the entry of such a reference stands alone. -/
theorem Sole.alone {reference : String} (sole : addressing.Sole reference entries)
    (decisive : Decisive (addressing.writes entries) address)
    (mem : ∃ value, (reference, value) ∈ entries) (leads : addressing.Leads address reference) :
    addressing.Alone address reference entries := by
  obtain ⟨path, read, leads⟩ := leads
  obtain ⟨value, mem⟩ := mem
  -- A populated container at the slot would stand at or around the one of the reference.
  have ends : ∀ write ∈ addressing.writes entries, ¬ write.1.Passes address := by
    refine decisive.ends.resolve_right ?_
    rintro ⟨write, there, rfl, filled⟩
    rw [sole.plain path read write there leads] at filled
    cases filled
  have same := Path.eq_of_not_passes (ends _ (mem_writes_iff.2 ⟨reference, mem, read⟩)) leads
  refine ⟨⟨path, read, same⟩, ?_⟩
  rintro ⟨key, value⟩ there ⟨other, also, leads⟩
  have written := mem_writes_iff.2 ⟨key, there, also⟩
  have here : other.address = path.address :=
    (Path.eq_of_not_passes (ends _ written) leads).trans same.symm
  exact ⟨sole.only path read _ there other also here,
    sole.plain path read _ written (here ▸ List.prefix_rfl)⟩

end Addressing

/-! ### Both ways -/

namespace Run

variable {s s' : Situation} {pairs : List SetValuePair} {prepared : PreparedRefresh}

/-- A prepared refresh is for what the form is on, and its document is that of the edited values and
the pairs after them. -/
theorem content_of_prepareRefresh (ok : prepareRefresh pairs s = .ok prepared s') :
    ∃ context content, s.form.assignment = some context ∧
      prepared.request = actionRequest context content ∧
      Document.putAll (s.form.addressing.writes (s.form.threaded pairs)) (.obj []) =
        some content := by
  obtain ⟨request, drafted, rfl, -⟩ := prepareRefresh_eq_ok_iff.1 ok
  obtain ⟨-, context, document, content, bound, nested, written, made, -⟩ :=
    draftRefresh_eq_ok_iff.1 drafted
  rw [Form.writePairs_eq] at written
  have first := (Addressing.writeAll_eq_ok_iff.1 nested).2
  have second := (Addressing.writeAll_eq_ok_iff.1 written).2
  refine ⟨context, content, bound, made.symm, ?_⟩
  rw [Form.threaded, Addressing.writes_append, Document.putAll_append]
  exact Option.bind_eq_some_iff.2 ⟨document, first, second⟩

/-- The document of a refresh that follows when pairs were set. -/
theorem content_of_setValue
    (ok : (runStep (.setValue pairs) >>= fun _ => prepareRefresh []) s = .ok prepared s') :
    ∃ context content, s.form.assignment = some context ∧
      prepared.request = actionRequest context content ∧
      Document.putAll (s.form.addressing.writes (s.form.stepped pairs)) (.obj []) =
        some content := by
  obtain ⟨done, middle, set, ready⟩ := bind_eq_ok_iff.1 ok
  have set : changeForm (·.setValues pairs) s = .ok done middle := set
  obtain rfl := changeForm_eq_ok_iff.1 set
  obtain ⟨context, content, bound, made, written⟩ := content_of_prepareRefresh ready
  refine ⟨context, content, bound, made, ?_⟩
  rw [Form.threaded, Form.resolvePairs, List.map_nil, List.append_nil] at written
  exact written

end Run

/-- Pairs that a refresh takes along, and pairs that are set before it. Where both refreshes can be
prepared, they are for the same case, assignment and action. If no reference enters an array on the
way to something that another reference needs, their documents are equal just if every slot that is
decided on its own comes out the same of the values with the pairs written after them and of the
values among which the pairs are set, and both orders fill the gaps of lists with the same. Where
each pair alone is for its slot and nothing populated is written there or around it, the slots do
come out the same. -/
theorem threaded_pairs {s s₁ s₂ : Situation} {pairs : List SetValuePair}
    {threaded stepped : PreparedRefresh} (first : Run.prepareRefresh pairs s = .ok threaded s₁)
    (second : (Run.runStep (.setValue pairs) >>= fun _ => Run.prepareRefresh []) s =
      .ok stepped s₂) :
    let writes := s.form.addressing.writes (s.form.threaded pairs)
    let others := s.form.addressing.writes (s.form.stepped pairs)
    (threaded.request.caseId = stepped.request.caseId ∧
      threaded.request.assignmentId = stepped.request.assignmentId ∧
      threaded.request.actionId = stepped.request.actionId) ∧
    ((∀ entry ∈ s.form.values.entries, entry.2.Ordered) →
      (∀ pair ∈ pairs, pair.value.Ordered) →
      (∀ path ∈ writes.map (·.1), ∀ other ∈ writes.map (·.1), ¬ path.Crosses other.address) →
      (threaded.request.content = stepped.request.content ↔
        (∀ path ∈ writes.map (·.1), Decisive writes path.address →
          Document.grow path.address .null writes = Document.grow path.address .null others) ∧
        FillSame writes others) ∧
      ((∀ pair ∈ s.form.resolvePairs pairs,
          s.form.addressing.Sole pair.1 (s.form.threaded pairs)) →
        (threaded.request.content = stepped.request.content ↔ FillSame writes others))) := by
  intro writes others
  obtain ⟨context, content, bound, made, written⟩ := Run.content_of_prepareRefresh first
  obtain ⟨_, other, same, also, rewritten⟩ := Run.content_of_setValue second
  obtain rfl := Option.some.inj (bound.symm.trans same)
  rw [made, also]
  refine ⟨⟨rfl, rfl, rfl⟩, fun fine ordered apart => ?_⟩
  have listed : ∀ entry ∈ s.form.threaded pairs, entry.2.Ordered := by
    intro entry mem
    rcases List.mem_append.1 mem with value | resolved
    · exact fine entry value
    · obtain ⟨pair, there, rfl⟩ := List.mem_map.1 resolved
      exact ordered_resolveProperty fine (ordered pair there)
  have equal := Document.eq_iff_grow written rewritten (s.form.selects_stepped pairs) apart
    (Addressing.forall_writes Json.Ordered listed)
  refine ⟨equal, fun sole => equal.trans (and_iff_right fun path mem decisive => ?_)⟩
  refine Addressing.grow_extend s.form.values fun pair there leads => ?_
  exact (sole pair there).alone decisive ⟨pair.2, List.mem_append_right _ there⟩ leads

/-- An open form on an assignment, with edited values. -/
def openValues (values : List (String × Json)) : Situation :=
  { openAction with form := { openAction.form with values := .ofList values } }

/-- A pair for a slot that no other reference addresses may be taken along or set before. -/
theorem threaded_new_value :
    let s := openValues [("A", .str "old"), ("P.B", .str "x")]
    let pairs : List SetValuePair := [⟨"A", .str "new"⟩]
    ∃ threaded stepped s₁ s₂, Run.prepareRefresh pairs s = .ok threaded s₁ ∧
      (Run.runStep (.setValue pairs) >>= fun _ => Run.prepareRefresh []) s = .ok stepped s₂ ∧
      threaded.request.content = stepped.request.content := by
  intro s pairs
  have late : s.form.threaded pairs =
      [("A", .str "old"), ("P.B", .str "x"), ("A", .str "new")] := rfl
  have early : s.form.stepped pairs = [("A", .str "new"), ("P.B", .str "x")] := rfl
  have writes : s.form.addressing.writes
      [("A", .str "old"), ("P.B", .str "x"), ("A", .str "new")] =
      [(⟨[], .page "A"⟩, .str "old"), (⟨[.page "P"], .page "B"⟩, .str "x"),
        (⟨[], .page "A"⟩, .str "new")] := rfl
  have others : s.form.addressing.writes [("A", .str "new"), ("P.B", .str "x")] =
      [(⟨[], .page "A"⟩, .str "new"), (⟨[.page "P"], .page "B"⟩, .str "x")] := rfl
  have set : Run.runStep (.setValue pairs) s =
      .ok () (openValues [("A", .str "new"), ("P.B", .str "x")]) := rfl
  let request : ActionRequest :=
    ⟨"C", "A", "B", .obj [("A", .str "new"), ("P", .obj [("B", .str "x")])]⟩
  have takes : ∃ s₁, Run.prepareRefresh pairs s = .ok ⟨⟨1⟩, request, none⟩ s₁ := ⟨_, rfl⟩
  have follows : ∃ s₂, (Run.runStep (.setValue pairs) >>= fun _ => Run.prepareRefresh []) s =
      .ok ⟨⟨1⟩, request, none⟩ s₂ := by
    rw [Run.bind_of_ok set]
    exact ⟨_, rfl⟩
  obtain ⟨s₁, takes⟩ := takes
  obtain ⟨s₂, follows⟩ := follows
  refine ⟨_, _, s₁, s₂, takes, follows, (((threaded_pairs takes follows).2 ?_ ?_ ?_).2 ?_).2 ?_⟩
  · have values : s.form.values.entries = [("A", .str "old"), ("P.B", .str "x")] := rfl
    rw [values]
    simp [Json.Ordered]
  · simp [pairs, Json.Ordered]
  · rw [late, writes]
    rintro path - other mem ⟨place, index, rest, -, split⟩
    have item : Key.item index ∈ other.address := by rw [split]; simp
    simp only [List.map_cons, List.map_nil, List.mem_cons, List.not_mem_nil, or_false] at mem
    rcases mem with rfl | rfl | rfl <;> simp [Path.address, Path.segments, Segment.keys] at item
  · intro pair mem
    rw [late]
    obtain rfl : pair = ("A", .str "new") := List.mem_singleton.1 mem
    constructor
    · rintro path read entry mem other also same
      simp only [List.mem_cons, List.not_mem_nil, or_false] at mem
      rcases mem with rfl | rfl | rfl
      · rfl
      · obtain rfl : (⟨[], .page "A"⟩ : Path) = path := Except.ok.inj read
        obtain rfl : (⟨[.page "P"], .page "B"⟩ : Path) = other := Except.ok.inj also
        simp [Path.address, Path.segments, Segment.keys] at same
      · rfl
    · intro path read write mem _
      rw [writes] at mem
      simp only [List.mem_cons, List.not_mem_nil, or_false] at mem
      rcases mem with rfl | rfl | rfl <;> rfl
  · intro address _ _
    rw [late, writes, early, others, filling_of_pages, filling_of_pages] <;>
      simp [Path.address, Path.segments, Segment.keys]

/-- Of two references to one slot the later in their order counts once the pair is set, and the pair
counts if it is taken along; and a value does not replace a container that stands before it. -/
theorem threaded_pairs_differ :
    (∃ threaded stepped s₁ s₂,
      let s := openValues [("pyWorkPage.A", .str "old")]
      Run.prepareRefresh [⟨"A", .str "new"⟩] s = .ok threaded s₁ ∧
      (Run.runStep (.setValue [⟨"A", .str "new"⟩]) >>= fun _ => Run.prepareRefresh []) s =
        .ok stepped s₂ ∧
      threaded.request.content = .obj [("A", .str "new")] ∧
      stepped.request.content = .obj [("A", .str "old")]) ∧
    ∃ threaded stepped s₁ s₂,
      let s := openValues [("A", .obj [("B", .str "old")])]
      Run.prepareRefresh [⟨"A", .str "new"⟩] s = .ok threaded s₁ ∧
      (Run.runStep (.setValue [⟨"A", .str "new"⟩]) >>= fun _ => Run.prepareRefresh []) s =
        .ok stepped s₂ ∧
      threaded.request.content = .obj [("A", .obj [("B", .str "old")])] ∧
      stepped.request.content = .obj [("A", .str "new")] := by
  have spelled : Run.runStep (.setValue [⟨"A", .str "new"⟩])
      (openValues [("pyWorkPage.A", .str "old")]) =
        .ok () (openValues [("A", .str "new"), ("pyWorkPage.A", .str "old")]) := rfl
  have held : Run.runStep (.setValue [⟨"A", .str "new"⟩])
      (openValues [("A", .obj [("B", .str "old")])]) =
        .ok () (openValues [("A", .str "new")]) := rfl
  constructor
  · dsimp only
    rw [Run.bind_of_ok spelled]
    exact ⟨⟨⟨1⟩, ⟨"C", "A", "B", _⟩, none⟩, ⟨⟨1⟩, ⟨"C", "A", "B", _⟩, none⟩, _, _,
      rfl, rfl, rfl, rfl⟩
  · dsimp only
    rw [Run.bind_of_ok held]
    exact ⟨⟨⟨1⟩, ⟨"C", "A", "B", _⟩, none⟩, ⟨⟨1⟩, ⟨"C", "A", "B", _⟩, none⟩, _, _,
      rfl, rfl, rfl, rfl⟩

end CaseForm

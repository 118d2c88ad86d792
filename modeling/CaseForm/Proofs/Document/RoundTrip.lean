import CaseForm.Proofs.Document.Leaves
import CaseForm.Proofs.Document.Order
import CaseForm.Proofs.Document.Retention

/-!
Flattening undoes nesting.

A table whose references need no group and are written as flattening writes them is found again in
the flattened document that it nests to. What flattening adds are the items of lists that stand
before a used one and that no reference uses (`Padded`); they hold `null` (`flatten_nest`).

* `Addressing.Faithful`: references that are written as they are read have addresses of their own,
  and enter no list;
* `Drawn.scalar_cases`: a scalar of what many writes draw was written, or fills a gap.
-/

namespace CaseForm

/-! ### Paths to pages and items -/

/-- An item on the way of segments belongs to one of them. -/
theorem Segment.exists_listItem_of_keys_eq {segments : List Segment} {list rest : Address}
    {index : Nat} (eq : segments.flatMap Segment.keys = list ++ .item index :: rest) :
    ∃ before name after, segments = before ++ .listItem name index :: after ∧
      list = before.flatMap Segment.keys ++ [.member name] := by
  obtain ⟨before, segment, after, inner, outer, rfl, keys, rfl⟩ := exists_of_keys_eq eq
  cases segment with
  | page name => rcases inner with _ | ⟨a, _ | ⟨b, inner⟩⟩ <;> cases keys
  | groupEntry name key =>
    rcases inner with _ | ⟨a, _ | ⟨b, inner⟩⟩
    · cases keys
    · cases keys
    · simp [Segment.keys] at keys
  | listItem name item =>
    rcases inner with _ | ⟨a, _ | ⟨b, inner⟩⟩
    · cases keys
    · cases keys
      exact ⟨before, name, after, rfl, rfl⟩
    · simp [Segment.keys] at keys

namespace Path

variable {path other : Path}

/-- Paths without keys to one address are written alike. -/
theorem text_eq_of_address_eq (keyless : path.Keyless) (also : other.Keyless)
    (eq : path.address = other.address) : path.text = other.text := by
  have written := text_address keyless
  rw [eq, text_address also, String.append_right_inj] at written
  exact written.symm

/-- A path without keys enters rows, and no row is itself a list. -/
theorem not_crosses_of_keyless (keyless : path.Keyless) (other : Path) :
    ¬ path.Crosses other.address := by
  rintro ⟨place, index, rest, ⟨before, segment, after, eq, subscript, rfl⟩, split⟩
  have lists : other.Lists ((before ++ [segment]).flatMap Segment.keys) := ⟨index, rest, split⟩
  obtain ⟨outer, name, named⟩ := lists.member
  cases segment with
  | page name => cases subscript
  | listItem list item =>
    rw [List.flatMap_append, List.flatMap_singleton, Segment.keys, List.append_cons] at named
    have last := (List.append_inj' named rfl).2
    cases last
  | groupEntry group key =>
    have here := keyless (.groupEntry group key) (by simp [segments, eq])
    cases here

/-- What a path fills is an item before one that it uses. -/
theorem exists_listItem_of_fills {place : Address} {value : Json}
    (fills : path.address.fills place = some value) :
    ∃ before name index after position, path.segments = before ++ .listItem name index :: after ∧
      position < index ∧ place = (Path.mk before (.listItem name position)).address := by
  obtain ⟨list, index, position, rest, split, rfl, lower, -⟩ := Address.eq_of_fills fills
  obtain ⟨before, name, after, eq, rfl⟩ := Segment.exists_listItem_of_keys_eq split
  refine ⟨before, name, index, after, position, eq, lower, ?_⟩
  simp [address_eq, Segment.keys]

/-- The items of a legible list are legible up to any that is. -/
theorem legible_listItem {before after : List Segment} {name : String} {index position : Nat}
    (legible : path.Legible) (eq : path.segments = before ++ .listItem name index :: after)
    (lower : position ≤ index) : (Path.mk before (.listItem name position)).Legible := by
  intro segment mem
  rcases List.mem_append.1 mem with earlier | last
  · exact legible segment (by rw [eq]; simp [earlier])
  · cases List.mem_singleton.1 last
    obtain ⟨⟨named, closed, within⟩, dotless⟩ :=
      legible (.listItem name index) (by rw [eq]; simp)
    refine ⟨⟨named, closed, by omega⟩, ?_⟩
    rw [Segment.toList_text_listItem, List.mem_append, not_or] at dotless ⊢
    exact ⟨dotless.1, by simp [not_mem_toDigits]⟩

/-- The items of a list need no group if the way to one of them does not. -/
theorem keyless_listItem {before after : List Segment} {name : String} {index : Nat}
    (keyless : path.Keyless) (eq : path.segments = before ++ .listItem name index :: after)
    (position : Nat) : (Path.mk before (.listItem name position)).Keyless := by
  intro segment mem
  rcases List.mem_append.1 mem with earlier | last
  · exact keyless segment (by rw [eq]; simp [earlier])
  · cases List.mem_singleton.1 last
    rfl

end Path

/-! ### References that are written as they are read -/

namespace Addressing

/-- Every entry stands under the written form of a path to pages and items. -/
def Faithful (addressing : Addressing) (entries : Entries Json) : Prop :=
  ∀ entry ∈ entries, ∃ path, addressing.parse entry.1 = .ok path ∧ path.Keyless ∧
    path.text = entry.1

variable {addressing : Addressing} {entries : Entries Json}

theorem Faithful.readable (faithful : addressing.Faithful entries) :
    ∀ entry ∈ entries, addressing.path? entry.1 ≠ none := by
  intro entry mem none
  obtain ⟨path, read, -⟩ := faithful entry mem
  rw [path?_eq_some_iff.2 read] at none
  cases none

/-- What is written goes along a legible path without keys, under its written form. -/
theorem Faithful.of_mem_writes (faithful : addressing.Faithful entries) {path : Path} {value : Json}
    (mem : (path, value) ∈ addressing.writes entries) :
    path.Legible ∧ path.Keyless ∧ (path.text, value) ∈ entries := by
  obtain ⟨reference, there, read⟩ := mem_writes_iff.1 mem
  obtain ⟨other, also, keyless, written⟩ := faithful _ there
  rw [read] at also
  cases also
  exact ⟨legible_of_parse read, keyless, written ▸ there⟩

/-- Different references that are written as they are read have different addresses. -/
theorem Faithful.apart (faithful : addressing.Faithful entries) (sorted : entries.Sorted) :
    Apart (addressing.writes entries) := by
  unfold Apart writes
  refine List.pairwise_filterMap.2 (sorted.imp_of_mem ?_)
  intro entry later mem there lower write first other second same
  obtain ⟨path, read, rfl⟩ := Option.map_eq_some_iff.1 first
  obtain ⟨next, also, rfl⟩ := Option.map_eq_some_iff.1 second
  obtain ⟨a, readA, keylessA, writtenA⟩ := faithful entry mem
  obtain ⟨b, readB, keylessB, writtenB⟩ := faithful later there
  rw [path?_eq_some_iff, readA, Except.ok.injEq] at read
  rw [path?_eq_some_iff, readB, Except.ok.injEq] at also
  subst read also
  rw [← writtenA, ← writtenB, Path.text_eq_of_address_eq keylessA keylessB same] at lower
  exact String.lt_irrefl _ lower

end Addressing

/-! ### The scalars of what is drawn -/

/-- A scalar of a document that is drawn was written there, or is the `null` of a gap. -/
theorem Drawn.scalar_cases {writes : List (Path × Json)} {document leaf : Json} {address : Address}
    (drawn : Drawn writes document) (there : document.get? address = some leaf)
    (scalar : leaf.isScalar = true) :
    (∃ path, (path, leaf) ∈ writes ∧ path.address = address) ∨
      leaf = .null ∧ Gap (writes.map (·.1)) address ∧
        ∃ path ∈ writes.map (·.1), path.address.fills address = some leaf := by
  have kept := drawn.not_lost there
  rcases place_cases _ address kept with
    opened | ⟨closed, listed⟩ | ⟨closed, single, path, mem, rfl⟩ | gap
  · rw [← Json.isScalar_outline, drawn.outline_of_opened there opened] at scalar
    cases scalar
  · rw [← Json.isScalar_outline, drawn.outline_of_listed there closed listed] at scalar
    cases scalar
  · obtain ⟨⟨path, value⟩, written, rfl⟩ := List.mem_map.1 mem
    have held := drawn.held _ written kept closed single
    rw [there] at held
    cases held
    exact .inl ⟨path, written, rfl⟩
  · right
    have later : address ≠ [] := by
      rintro rfl
      cases there
      rw [← Json.isScalar_outline, drawn.root] at scalar
      cases scalar
    rw [drawn.filled address later gap] at there
    refine ⟨?_, gap, List.exists_of_findSome?_eq_some there⟩
    rcases filling_cases (writes.map (·.1)) address with eq | eq | eq
    · rw [eq] at there
      cases there
    · rw [eq] at there
      cases there
      rfl
    · rw [eq] at there
      cases there
      cases scalar

/-! ### Flattening what was nested -/

/-- Some path has the item of a list at its end or goes on from it. -/
def Uses (paths : List Path) (containers : List Segment) (name : String) (index : Nat) : Prop :=
  ∃ path ∈ paths, containers ++ [.listItem name index] <+: path.segments

/-- The text is the reference to an item of a list that no path uses, before one that some path
does. -/
def Padded (paths : List Path) (reference : String) : Prop :=
  ∃ containers name index larger,
    reference = (Path.mk containers (.listItem name index)).text ∧ index < larger ∧
      Uses paths containers name larger ∧ ¬ Uses paths containers name index

/-- With an item of a list the items before it are used. -/
def Gapless (paths : List Path) : Prop :=
  ∀ containers name index larger, index < larger → Uses paths containers name larger →
    Uses paths containers name index

/-- No path uses an item that is a gap. -/
theorem not_uses_of_gap {paths : List Path} {containers : List Segment} {name : String}
    {index : Nat} (gap : Gap paths (Path.mk containers (.listItem name index)).address) :
    ¬ Uses paths containers name index := by
  rintro ⟨path, mem, after, eq⟩
  refine gap.1 path mem ⟨after.flatMap Segment.keys, ?_⟩
  rw [Path.address, Path.address, ← eq, List.flatMap_append]
  rfl

section FlattenNest

variable {addressing : Addressing} {entries : Entries Json} {document : Json}

/-- Every scalar that is drawn under written forms stands where a reference to pages and items can
lead. -/
theorem referable_of_drawn (faithful : addressing.Faithful entries)
    (drawn : Drawn (addressing.writes entries) document) : document.Referable := by
  intro address leaf there scalar
  rcases drawn.scalar_cases there scalar with ⟨path, mem, rfl⟩ | ⟨-, -, path, mem, fills⟩
  · obtain ⟨legible, keyless, -⟩ := faithful.of_mem_writes mem
    exact ⟨path, legible, keyless, rfl⟩
  · obtain ⟨⟨path, value⟩, written, rfl⟩ := List.mem_map.1 mem
    obtain ⟨legible, keyless, -⟩ := faithful.of_mem_writes written
    obtain ⟨before, name, index, after, position, eq, lower, rfl⟩ :=
      Path.exists_listItem_of_fills fills
    exact ⟨_, Path.legible_listItem legible eq (Nat.le_of_lt lower),
      Path.keyless_listItem keyless eq position, rfl⟩

/-- What the flattened document holds was written under its key, or is a gap of a list. -/
theorem flatten_cases (faithful : addressing.Faithful entries)
    (drawn : Drawn (addressing.writes entries) document) (ordered : document.Ordered)
    {key : String} {value : Json} (flat : document.flatten.get? key = some value) :
    (key, value) ∈ entries ∨ value = .null ∧ Padded (addressing.paths entries) key := by
  have referable := referable_of_drawn faithful drawn
  obtain ⟨scalar, path, -, keyless, rfl, there⟩ :=
    (Json.get?_flatten_eq_some_iff drawn.root ordered referable).1 flat
  rcases drawn.scalar_cases there scalar with ⟨other, mem, same⟩ | ⟨rfl, gap, other, mem, fills⟩
  · left
    obtain ⟨-, also, written⟩ := faithful.of_mem_writes mem
    rwa [Path.text_eq_of_address_eq also keyless same] at written
  · right
    obtain ⟨before, name, larger, after, index, eq, lower, same⟩ :=
      Path.exists_listItem_of_fills fills
    obtain ⟨⟨user, held⟩, written, rfl⟩ := List.mem_map.1 mem
    obtain ⟨-, plain, -⟩ := faithful.of_mem_writes written
    refine ⟨rfl, before, name, index, larger, ?_, lower, ⟨user, mem, after, ?_⟩, ?_⟩
    · exact Path.text_eq_of_address_eq keyless (Path.keyless_listItem plain eq index) same
    · rw [eq, List.append_assoc]
      rfl
    · rw [same] at gap
      exact not_uses_of_gap gap

end FlattenNest

/-- References to pages and items that are written canonically are written as they are read. -/
theorem Addressing.faithful_of_canonical {addressing : Addressing} {entries : Entries Json}
    (written : ∀ entry ∈ entries, addressing.Canonical entry.1 ∧
      ∃ path, addressing.parse entry.1 = .ok path ∧ path.Keyless) :
    addressing.Faithful entries := by
  intro entry mem
  obtain ⟨canonical, path, read, keyless⟩ := written entry mem
  exact ⟨path, read, keyless, text_of_canonical read canonical⟩

/-- A table of scalars under canonical references to pages and items, of which none goes on from
another, is found again in the flattened document that it nests to. Every further entry there is an
unused item of a list, stands before a used one and holds `null`; so the table comes back as it was
if every list is used without gaps. -/
theorem flatten_nest (addressing : Addressing) (values : Table Json) (document : Json)
    (scalar : ∀ entry ∈ values.entries, entry.2.isScalar = true)
    (written : ∀ entry ∈ values.entries, addressing.Canonical entry.1 ∧
      ∃ path, addressing.parse entry.1 = .ok path ∧ path.Keyless)
    (last : ∀ path ∈ addressing.paths values.entries, ∀ other ∈ addressing.paths values.entries,
      path.address <+: other.address → other.address = path.address)
    (nested : addressing.nest values = .ok document) :
    (∀ key value, values.get? key = some value → document.flatten.get? key = some value) ∧
    (∀ key value, document.flatten.get? key = some value → values.get? key = none →
      value = .null ∧ Padded (addressing.paths values.entries) key) ∧
    (Gapless (addressing.paths values.entries) → document.flatten = values) := by
  have faithful := Addressing.faithful_of_canonical written
  have apart := faithful.apart values.sorted
  have scalars := addressing.forall_writes (·.isScalar = true) scalar
  obtain ⟨-, put⟩ := Addressing.writeAll_eq_ok_iff.1 nested
  have drawn := Document.drawn_of_putAll put scalars apart
  have ordered := Document.ordered_putAll put
    (fun write mem => Document.ordered_of_isScalar (scalars write mem))
    ⟨Entries.sorted_nil, trivial⟩
  have free : ¬ Obstructed (addressing.paths values.entries) := by
    rw [Addressing.paths, ← Document.putAll_eq_none_iff scalars apart, put]
    intro absurd
    cases absurd
  have kept (key : String) (value : Json) (there : values.get? key = some value) :
      document.flatten.get? key = some value := by
    have mem := (values.mem_entries_iff key value).2 there
    obtain ⟨path, read, keyless, rfl⟩ := faithful _ mem
    have write := Addressing.mem_writes_iff.2 ⟨_, mem, read⟩
    refine (Json.get?_flatten_eq_some_iff drawn.root ordered
      (referable_of_drawn faithful drawn)).2 ⟨scalar _ mem, path, ?_, keyless, rfl, ?_⟩
    · exact Addressing.legible_of_parse read
    · refine (drawn.get?_eq_some_iff free write).2 ⟨?_, ?_⟩
      · exact last path (List.mem_map_of_mem write)
      · intro other there
        obtain ⟨⟨other, held⟩, also, rfl⟩ := List.mem_map.1 there
        exact Path.not_crosses_of_keyless (faithful.of_mem_writes also).2.1 path
  have further (key : String) (value : Json) (flat : document.flatten.get? key = some value)
      (absent : values.get? key = none) :
      value = .null ∧ Padded (addressing.paths values.entries) key := by
    rcases flatten_cases faithful drawn ordered flat with mem | padded
    · rw [values.mem_entries_iff, absent] at mem
      cases mem
    · exact padded
  refine ⟨kept, further, ?_⟩
  intro gapless
  apply Table.ext_get?
  intro key
  cases there : values.get? key with
  | some value => exact kept key value there
  | none =>
    rw [Option.eq_none_iff_forall_ne_some]
    intro value flat
    obtain ⟨-, containers, name, index, larger, -, lower, uses, unused⟩ :=
      further key value flat there
    exact unused (gapless containers name index larger lower uses)

/-- A list that is used from its second item on comes back with `null` as its first. -/
theorem flatten_nest_padded :
    ∃ document, Addressing.standard.nest ⟨[("A.B", .null), ("L(2)", .str "x")], by decide⟩ =
        .ok document ∧
      document.flatten.get? "A.B" = some .null ∧ document.flatten.get? "L(2)" = some (.str "x") ∧
      Padded (Addressing.standard.paths [("A.B", .null), ("L(2)", .str "x")]) "L(1)" := by
  have writes : Addressing.standard.writes [("A.B", .null), ("L(2)", .str "x")] =
      [(⟨[.page "A"], .page "B"⟩, .null), (⟨[], .listItem "L" 1⟩, .str "x")] := rfl
  have nested : Addressing.standard.nest ⟨[("A.B", .null), ("L(2)", .str "x")], by decide⟩ =
      .ok (.obj [("A", .obj [("B", .null)]), ("L", .arr [.null, .str "x"])]) := rfl
  have canonical : ∀ entry ∈ [("A.B", Json.null), ("L(2)", .str "x")],
      Addressing.standard.Canonical entry.1 ∧
        ∃ path, Addressing.standard.parse entry.1 = .ok path ∧ path.Keyless := by
    simp only [List.forall_mem_cons]
    refine ⟨⟨⟨by decide, by decide⟩, _, rfl, ?_⟩, ⟨⟨by decide, by decide⟩, _, rfl, ?_⟩, by simp⟩
    · simp [Path.Keyless, Path.segments, Segment.isKeyed]
    · simp [Path.Keyless, Path.segments, Segment.isKeyed]
  obtain ⟨kept, further, -⟩ := flatten_nest Addressing.standard
    ⟨[("A.B", .null), ("L(2)", .str "x")], by decide⟩ _ (by simp [Json.isScalar]) canonical
    (by rw [Addressing.paths, writes]; decide) nested
  exact ⟨_, nested, kept _ _ rfl, kept _ _ rfl, (further "L(1)" .null rfl rfl).2⟩

end CaseForm

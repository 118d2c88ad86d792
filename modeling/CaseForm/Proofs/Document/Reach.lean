import CaseForm.Proofs.Document.Effect

/-!
Writing along a path, and what a path does at the places on its way.

A path opens the objects and lists that its address leads through. Where it leads through a
container with a subscript, it enters what stands there without looking at it: an array that stands
there gives way to an object. Everywhere else an array in the way of an object, or an object in the
way of an array, is a conflict.

* `Path.get?_put_self`, `Path.get?_put_before`, `Path.get?_put_beside`: what a write along a path
  does at every address;
* `Path.put_eq_none_iff`: where it fails;
* `Path.get?_put_of_apart`: apart from its path it leaves what it finds and fills up lists, except
  where an object takes the place of a list (`Path.get?_put_of_loses`);
* `Path.get?_put_of_not_crosses`: so what stands beside the address of a write stays, unless it
  lies in an array that the path enters.
-/

namespace CaseForm

/-! ### Addresses that part -/

/-- What a write into a key puts at another key and on, to fill up a list. -/
def Key.fills (rest : Address) : Key → Key → Address → Option Json
  | .item index, .item other, [] =>
    if other < index then some (Document.padding rest) else none
  | _, _, _ => none

namespace Address

/-- Two addresses lead one to the other, or part at some key. -/
theorem compare (a b : Address) :
    a <+: b ∨ (∃ key rest, a = b ++ key :: rest) ∨
      ∃ common x y as bs, a = common ++ x :: as ∧ b = common ++ y :: bs ∧ x ≠ y := by
  induction a generalizing b with
  | nil => exact .inl b.nil_prefix
  | cons x as ih =>
    cases b with
    | nil => exact .inr (.inl ⟨x, as, rfl⟩)
    | cons y bs =>
      by_cases eq : x = y
      · subst eq
        rcases ih bs with leads | ⟨key, rest, rfl⟩ | ⟨common, k, l, ks, ls, rfl, rfl, ne⟩
        · exact .inl (List.prefix_cons_inj x |>.2 leads)
        · exact .inr (.inl ⟨key, rest, rfl⟩)
        · exact .inr (.inr ⟨x :: common, k, l, ks, ls, rfl, rfl, ne⟩)
      · exact .inr (.inr ⟨[], x, y, as, bs, rfl, rfl, eq⟩)

/-- What a write to an address puts at another one to fill up a list. -/
def fills : Address → Address → Option Json
  | key :: rest, other :: below =>
    if other = key then fills rest below else key.fills rest other below
  | _, _ => none

theorem fills_append (list written place : Address) :
    fills (list ++ written) (list ++ place) = fills written place := by
  induction list with
  | nil => rfl
  | cons key list ih => rw [List.cons_append, List.cons_append, fills, if_pos rfl, ih]

/-- Where two addresses part, the keys there decide. -/
theorem fills_append_of_ne (list : Address) {key other : Key} (ne : other ≠ key)
    (rest below : Address) :
    fills (list ++ key :: rest) (list ++ other :: below) = key.fills rest other below := by
  rw [fills_append, fills, if_neg ne]

/-- A list is filled at the items before the one that is written. -/
theorem eq_of_fills {written place : Address} {value : Json}
    (h : written.fills place = some value) :
    ∃ list index other rest, written = list ++ .item index :: rest ∧
      place = list ++ [.item other] ∧ other < index ∧ value = Document.padding rest := by
  induction written generalizing place with
  | nil => cases h
  | cons key rest ih =>
    cases place with
    | nil => cases h
    | cons other below =>
      by_cases eq : other = key
      · subst eq
        rw [fills, if_pos rfl] at h
        obtain ⟨list, index, before, tail, rfl, rfl, lt, rfl⟩ := ih h
        exact ⟨other :: list, index, before, tail, rfl, rfl, lt, rfl⟩
      · rw [fills, if_neg eq] at h
        cases key with
        | member name => cases h
        | item index =>
          cases other with
          | member name => cases h
          | item before =>
            cases below with
            | cons next below => cases h
            | nil =>
              rw [Key.fills, Option.ite_none_right_eq_some] at h
              exact ⟨[], index, before, rest, rfl, rfl, h.1, (Option.some.inj h.2).symm⟩

/-- Lists are filled at items, and not at members. -/
theorem fills_concat_member (written list : Address) (name : String) :
    written.fills (list ++ [.member name]) = none := by
  cases fills : written.fills (list ++ [.member name]) with
  | none => rfl
  | some filler =>
    obtain ⟨other, index, item, rest, -, same, -⟩ := eq_of_fills fills
    cases (List.append_inj' same rfl).2

/-- An address fills no place that it leads to or comes from. -/
theorem fills_eq_none_of_prefix {written place : Address} (leads : written <+: place) :
    written.fills place = none := by
  obtain ⟨below, rfl⟩ := leads
  have := fills_append written [] below
  rw [List.append_nil] at this
  rw [this]
  cases below <;> rfl

end Address

/-! ### The way of a path -/

namespace Path

/-- The path goes into a member of what stands at a place. -/
def Opens (path : Path) (place : Address) : Prop :=
  ∃ name rest, path.address = place ++ .member name :: rest

/-- The path goes into an item of what stands at a place. -/
def Lists (path : Path) (place : Address) : Prop :=
  ∃ index rest, path.address = place ++ .item index :: rest

/-- A place that the subscript of one of the containers leads to. -/
def EntersFrom (containers : List Segment) (place : Address) : Prop :=
  ∃ before segment after, containers = before ++ segment :: after ∧
    segment.isRepeat = true ∧ place = (before ++ [segment]).flatMap Segment.keys

/-- The path goes on from a place that the subscript of one of its containers leads to. -/
def Enters (path : Path) (place : Address) : Prop := EntersFrom path.containers place

/-- An address lies in a list where the path needs an object. -/
def Loses (path : Path) (address : Address) : Prop :=
  ∃ place index rest, path.Opens place ∧ address = place ++ .item index :: rest

/-- An address lies in a list that the path enters. -/
def Crosses (path : Path) (address : Address) : Prop :=
  ∃ place index rest, path.Enters place ∧ address = place ++ .item index :: rest

/-- Writes a value along a path. -/
def put (path : Path) (value old : Json) : Option Json := Document.put value path.strides old

end Path

/-! ### The keys of a path -/

theorem Segment.keys_eq_cons (segment : Segment) :
    ∃ name rest, segment.keys = .member name :: rest := by
  cases segment <;> exact ⟨_, _, rfl⟩

/-- A key on the way of segments belongs to one of them. -/
theorem Segment.exists_of_keys_eq {segments : List Segment} {list rest : Address} {key : Key}
    (eq : segments.flatMap Segment.keys = list ++ key :: rest) :
    ∃ before segment after inner outer, segments = before ++ segment :: after ∧
      segment.keys = inner ++ key :: outer ∧ list = before.flatMap Segment.keys ++ inner := by
  induction segments generalizing list with
  | nil => simp at eq
  | cons segment segments ih =>
    rw [List.flatMap_cons, List.append_eq_append_iff] at eq
    rcases eq with ⟨inner, rfl, eq⟩ | ⟨_ | ⟨first, between⟩, split, eq⟩
    · obtain ⟨before, other, after, inner, outer, rfl, keys, rfl⟩ := ih eq
      exact ⟨segment :: before, other, after, inner, outer, rfl, keys, by simp⟩
    · have next : segments.flatMap Segment.keys = [] ++ key :: rest := eq.symm
      obtain ⟨before, other, after, inner, outer, rfl, keys, empty⟩ := ih next
      refine ⟨segment :: before, other, after, inner, outer, rfl, keys, ?_⟩
      rw [List.append_nil] at split
      rw [List.flatMap_cons, List.append_assoc, ← empty, List.append_nil, split]
    · cases eq
      exact ⟨[], segment, segments, list, between, rfl, split, rfl⟩

theorem Segment.map_key_strides (segment : Segment) (guarded : Bool) :
    (segment.strides guarded).map Stride.key = segment.keys := by
  cases segment <;> rfl

namespace Path

theorem exists_keys_eq_cons (containers : List Segment) (leaf : Segment) :
    ∃ name rest, containers.flatMap Segment.keys ++ leaf.keys = .member name :: rest := by
  cases containers with
  | nil => exact leaf.keys_eq_cons
  | cons segment containers =>
    obtain ⟨name, rest, keys⟩ := segment.keys_eq_cons
    exact ⟨name, _, by rw [List.flatMap_cons, keys]; rfl⟩

theorem map_key_stridesFrom (leaf : Segment) (containers : List Segment) (guarded : Bool) :
    (stridesFrom leaf guarded containers).map Stride.key =
      containers.flatMap Segment.keys ++ leaf.keys := by
  induction containers generalizing guarded with
  | nil => exact Segment.map_key_strides ..
  | cons segment containers ih =>
    rw [stridesFrom, List.map_append, Segment.map_key_strides, ih, List.flatMap_cons,
      List.append_assoc]

theorem map_key_strides (path : Path) : path.strides.map Stride.key = path.address := by
  rw [strides, map_key_stridesFrom, address_eq]

/-- The step at a place on the way of a path. -/
theorem exists_strides_eq {path : Path} {place rest : Address} {key : Key}
    (split : path.address = place ++ key :: rest) :
    ∃ before stride after, path.strides = before ++ stride :: after ∧
      before.map Stride.key = place ∧ stride.key = key ∧ after.map Stride.key = rest := by
  rw [← map_key_strides, List.map_eq_append_iff] at split
  obtain ⟨before, tail, eq, rfl, split⟩ := split
  obtain ⟨stride, after, rfl, rfl, rfl⟩ := List.map_eq_cons_iff.1 split
  exact ⟨before, stride, after, eq, rfl, rfl, rfl⟩

theorem entersFrom_cons_iff {segment : Segment} {containers : List Segment} {place : Address} :
    EntersFrom (segment :: containers) place ↔
      segment.isRepeat = true ∧ place = segment.keys ∨
        ∃ inner, EntersFrom containers inner ∧ place = segment.keys ++ inner := by
  constructor
  · rintro ⟨before, entered, after, eq, subscript, rfl⟩
    cases before with
    | nil =>
      cases eq
      exact .inl ⟨subscript, by simp⟩
    | cons first before =>
      cases eq
      exact .inr ⟨_, ⟨before, entered, after, rfl, subscript, rfl⟩, by simp⟩
  · rintro (⟨subscript, rfl⟩ | ⟨inner, ⟨before, entered, after, rfl, subscript, rfl⟩, rfl⟩)
    · exact ⟨[], segment, containers, rfl, subscript, by simp⟩
    · exact ⟨segment :: before, entered, after, rfl, subscript, by simp⟩

theorem not_entersFrom_nil (containers : List Segment) : ¬ EntersFrom containers [] := by
  rintro ⟨before, segment, after, -, -, empty⟩
  obtain ⟨name, rest, eq⟩ := segment.keys_eq_cons
  simp [eq] at empty

theorem entersFrom_append_iff {segment : Segment} {containers : List Segment} {inner : Address}
    (below : inner ≠ []) :
    EntersFrom (segment :: containers) (segment.keys ++ inner) ↔ EntersFrom containers inner := by
  rw [entersFrom_cons_iff]
  constructor
  · rintro (⟨-, eq⟩ | ⟨other, enters, eq⟩)
    · exact absurd (by simpa using eq) below
    · rwa [List.append_cancel_left eq]
  · exact fun enters => .inr ⟨inner, enters, rfl⟩

/-- The steps of a segment into a member: the first, and that into an entry of a group. -/
theorem strides_eq_append {segment : Segment} {first guarded : Bool} {before after : List Stride}
    {name : String} (eq : segment.strides first = before ++ .member name guarded :: after) :
    before = [] ∧ guarded = first ∨
      ∃ group, before.map Stride.key = [.member group] ∧ guarded = true ∧ before ≠ [] ∧
        segment.keys ≠ [.member group] := by
  cases segment with
  | page name =>
    rcases before with _ | ⟨a, before⟩
    · cases eq
      exact .inl ⟨rfl, rfl⟩
    · simp [Segment.strides] at eq
  | listItem name index =>
    rcases before with _ | ⟨a, _ | ⟨b, before⟩⟩
    · cases eq
      exact .inl ⟨rfl, rfl⟩
    · cases eq
    · simp [Segment.strides] at eq
  | groupEntry group key =>
    rcases before with _ | ⟨a, _ | ⟨b, before⟩⟩
    · cases eq
      exact .inl ⟨rfl, rfl⟩
    · cases eq
      exact .inr ⟨group, rfl, rfl, by simp, by simp [Segment.keys]⟩
    · simp [Segment.strides] at eq

/-- A step is guarded at the start if it was made so, and later unless a subscript leads to it. -/
theorem guarded_stridesFrom {leaf : Segment} {containers : List Segment} {first guarded : Bool}
    {before after : List Stride} {name : String}
    (eq : stridesFrom leaf first containers = before ++ .member name guarded :: after) :
    before = [] ∧ guarded = first ∨
      before ≠ [] ∧ (guarded = false ↔ EntersFrom containers (before.map Stride.key)) := by
  induction containers generalizing first before with
  | nil =>
    rcases strides_eq_append eq with start | ⟨group, -, rfl, later, -⟩
    · exact .inl start
    · exact .inr ⟨later, by simp [EntersFrom]⟩
  | cons segment containers ih =>
    -- A step behind the segment: the first one there is guarded if the segment is a page.
    have behind (inner : List Stride)
        (tail : stridesFrom leaf segment.guards containers =
          inner ++ .member name guarded :: after) :
        guarded = false ↔ EntersFrom (segment :: containers)
          ((segment.strides first ++ inner).map Stride.key) := by
      rw [List.map_append, Segment.map_key_strides]
      rcases ih tail with ⟨rfl, rfl⟩ | ⟨later, guard⟩
      · rw [List.map_nil, List.append_nil, entersFrom_cons_iff]
        constructor
        · intro open_
          refine .inl ⟨?_, rfl⟩
          cases segment <;> first | rfl | cases open_
        · rintro (⟨subscript, -⟩ | ⟨inner, enters, eq⟩)
          · cases segment <;> first | rfl | cases subscript
          · have empty : inner = [] := by simpa using eq
            exact absurd (empty ▸ enters) (not_entersFrom_nil containers)
      · rw [guard, entersFrom_append_iff (by simpa using later)]
    have filled : segment.strides first ≠ [] := by cases segment <;> simp [Segment.strides]
    rw [stridesFrom, List.append_eq_append_iff] at eq
    rcases eq with ⟨inner, rfl, tail⟩ | ⟨_ | ⟨stride, between⟩, split, tail⟩
    · exact .inr ⟨by simp [filled], behind inner tail⟩
    · rw [List.append_nil] at split
      have guard := behind [] tail.symm
      rw [List.append_nil, split] at guard
      exact .inr ⟨split ▸ filled, guard⟩
    · cases tail
      rcases strides_eq_append split with start | ⟨group, keys, rfl, later, longer⟩
      · exact .inl start
      · refine .inr ⟨later, ?_⟩
        rw [keys, entersFrom_cons_iff]
        constructor
        · intro absurd
          cases absurd
        · rintro (⟨-, eq⟩ | ⟨inner, enters, eq⟩)
          · exact absurd eq.symm longer
          · obtain ⟨name, rest, keys⟩ := segment.keys_eq_cons
            simp only [keys, List.cons_append, List.cons.injEq, List.nil_eq, List.append_eq_nil_iff,
              Key.member.injEq] at eq
            obtain ⟨rfl, rfl, -⟩ := eq
            exact absurd keys longer

/-! ### The effect of a write along a path -/

variable {path : Path} {value old new : Json}

/-- Where a path ends, a write leaves its value, or the container that stood there. -/
theorem get?_put_self (written : path.put value old = some new) (below : Address) :
    new.get? (path.address ++ below) =
      (Document.overwrite value ((old.get? path.address).getD .null)).get? below := by
  rw [← map_key_strides]
  exact Document.get?_put_self written below

/-- A populated container stays where a path ends on it. -/
theorem get?_put_of_occupied {found : Json} (written : path.put value old = some new)
    (there : old.get? path.address = some found) (occupied : Document.occupied found = true) :
    new.get? path.address = some found := by
  have self := get?_put_self written []
  rwa [List.append_nil, there, Option.getD_some, Document.overwrite, if_pos occupied] at self

/-- On the way of a path a write leaves populated containers of the kind that is passed. -/
theorem get?_put_before {place rest : Address} {key : Key}
    (written : path.put value old = some new) (split : path.address = place ++ key :: rest) :
    ∃ container, new.get? place = some container ∧ container.outline = key.holder ∧
      Document.occupied container = true := by
  obtain ⟨before, stride, after, eq, rfl, rfl, -⟩ := exists_strides_eq split
  exact Document.get?_put_before (by rw [← eq]; exact written)

/-- What a write leaves behind is an object. -/
theorem outline_put (written : path.put value old = some new) : new.outline = .obj [] := by
  obtain ⟨name, rest, keys⟩ := exists_keys_eq_cons path.containers path.leaf
  obtain ⟨container, there, object, -⟩ :=
    get?_put_before written (show path.address = [] ++ _ from path.address_eq.trans keys)
  cases there
  exact object

/-- Beside its path a write changes a list that it fills up, and what an object replaces. -/
theorem get?_put_beside {place rest : Address} {key other : Key}
    (written : path.put value old = some new) (split : path.address = place ++ key :: rest)
    (ne : other ≠ key) (below : Address) :
    new.get? (place ++ other :: below) =
      (key.beside rest other (old.get? (place ++ [other]))).bind fun found => found.get? below := by
  obtain ⟨before, stride, after, eq, rfl, rfl, rfl⟩ := exists_strides_eq split
  exact Document.get?_put_beside (by rw [← eq]; exact written) ne below

theorem ordered_put (written : path.put value old = some new) (fine : value.Ordered)
    (ordered : old.Ordered) : new.Ordered := Document.ordered_put written fine ordered

/-- A write fails just where its path needs a list and finds an object, or needs an object and
finds an array that it does not enter by a subscript. -/
theorem put_eq_none_iff :
    path.put value old = none ↔
      ∃ place found, old.get? place = some found ∧
        (path.Lists place ∧ found.outline = .obj [] ∨
          path.Opens place ∧ place ≠ [] ∧ ¬ path.Enters place ∧ found.outline = .arr []) := by
  rw [put, Document.put_eq_none_iff]
  constructor
  · rintro ⟨before, stride, after, found, eq, there, refused⟩
    have split : path.address = before.map Stride.key ++ stride.key :: after.map Stride.key := by
      rw [← map_key_strides, eq, List.map_append, List.map_cons]
    refine ⟨_, found, there, ?_⟩
    cases stride with
    | item index =>
      refine .inl ⟨⟨index, _, split⟩, ?_⟩
      cases found <;> first | rfl | cases refused
    | member name guarded =>
      refine .inr ⟨⟨name, _, split⟩, ?_⟩
      cases found with
      | arr items =>
        cases (show guarded = true from refused)
        rcases guarded_stridesFrom eq with ⟨-, absurd⟩ | ⟨later, guard⟩
        · cases absurd
        · exact ⟨by simpa using later, fun enters => absurd (guard.2 enters) (by simp), rfl⟩
      | _ => cases refused
  · rintro ⟨place, found, there, ⟨⟨index, rest, split⟩, object⟩ |
      ⟨⟨name, rest, split⟩, later, shut, array⟩⟩
    · obtain ⟨before, stride, after, eq, rfl, key, -⟩ := exists_strides_eq split
      refine ⟨before, stride, after, found, eq, there, ?_⟩
      cases stride with
      | member => cases key
      | item index => cases found <;> first | rfl | cases object
    · obtain ⟨before, stride, after, eq, rfl, key, -⟩ := exists_strides_eq split
      refine ⟨before, stride, after, found, eq, there, ?_⟩
      cases stride with
      | item => cases key
      | member name guarded =>
        rcases guarded_stridesFrom eq with ⟨rfl, -⟩ | ⟨-, guard⟩
        · exact absurd rfl later
        · cases guarded with
          | false => exact absurd (guard.1 rfl) shut
          | true => cases found <;> first | rfl | cases array

/-! ### What stays and what is gone -/

/-- A value with something inside is a populated container. -/
theorem occupied_of_get? {found inner : Json} {key : Key} {rest : Address}
    (h : found.get? (key :: rest) = some inner) : Document.occupied found = true := by
  rw [Json.get?_cons, Option.bind_eq_some_iff] at h
  obtain ⟨child, there, -⟩ := h
  cases found with
  | obj members =>
    cases key with
    | member name => cases members <;> first | rfl | cases there
    | item index => cases there
  | arr items => rfl
  | _ => cases key <;> cases there

theorem get?_of_free {found : Json} (free : Document.occupied found = false) (key : Key)
    (rest : Address) : found.get? (key :: rest) = none := by
  cases inside : found.get? (key :: rest) with
  | none => rfl
  | some inner =>
    rw [occupied_of_get? inside] at free
    cases free

/-- What a path enters, it opens. -/
theorem Enters.opens {place : Address} (enters : path.Enters place) : path.Opens place := by
  obtain ⟨before, segment, after, eq, -, rfl⟩ := enters
  obtain ⟨name, rest, keys⟩ := exists_keys_eq_cons after path.leaf
  refine ⟨name, rest, ?_⟩
  rw [address_eq, eq, ← keys]
  simp

theorem Crosses.loses {address : Address} (crosses : path.Crosses address) :
    path.Loses address := by
  obtain ⟨place, index, rest, enters, eq⟩ := crosses
  exact ⟨place, index, rest, enters.opens, eq⟩

theorem Crosses.append {address : Address} (crosses : path.Crosses address) (more : Address) :
    path.Crosses (address ++ more) := by
  obtain ⟨place, index, rest, enters, rfl⟩ := crosses
  exact ⟨place, index, rest ++ more, enters, by simp⟩

/-- A path without subscripts enters nothing. -/
theorem not_crosses_of_plain (plain : ∀ segment ∈ path.containers, segment.isRepeat = false)
    (address : Address) : ¬ path.Crosses address := by
  rintro ⟨place, index, rest, ⟨before, segment, after, eq, subscript, -⟩, -⟩
  rw [plain segment (by rw [eq]; simp)] at subscript
  cases subscript

/-- Where an object stands after a write, there is no list any more. -/
theorem get?_put_of_loses {address : Address} (written : path.put value old = some new)
    (loses : path.Loses address) : new.get? address = none := by
  obtain ⟨place, index, rest, ⟨name, tail, split⟩, rfl⟩ := loses
  obtain ⟨container, there, object, -⟩ := get?_put_before written split
  rw [Json.get?_append, there, Option.bind_some]
  cases container <;> first | rfl | cases object

/-- A write that needs a list does not find an object. -/
theorem outline_ne_of_lists {place : Address} {found : Json}
    (written : path.put value old = some new) (lists : path.Lists place)
    (there : old.get? place = some found) : found.outline ≠ .obj [] := by
  intro object
  have refused : path.put value old = none :=
    put_eq_none_iff.2 ⟨place, found, there, .inl ⟨lists, object⟩⟩
  rw [written] at refused
  cases refused

/-- A write finds an array where it needs an object only where it enters it, or at the root. -/
theorem enters_of_opens {place : Address} {found : Json}
    (written : path.put value old = some new) (opens : path.Opens place) (later : place ≠ [])
    (there : old.get? place = some found) (array : found.outline = .arr []) :
    path.Enters place := by
  apply Classical.byContradiction
  intro shut
  have refused : path.put value old = none :=
    put_eq_none_iff.2 ⟨place, found, there, .inr ⟨opens, later, shut, array⟩⟩
  rw [written] at refused
  cases refused

/-- Apart from its path a write leaves what it finds and fills up lists. -/
theorem get?_put_of_apart {address : Address} (written : path.put value old = some new)
    (before : ¬ address <+: path.address) (below : ¬ path.address <+: address)
    (keeps : ¬ path.Loses address) :
    new.get? address = (old.get? address).or (path.address.fills address) := by
  rcases Address.compare address path.address with leads | ⟨key, rest, rfl⟩ |
    ⟨place, other, key, under, rest, rfl, split, ne⟩
  · exact absurd leads before
  · exact absurd (List.prefix_append _ _) below
  rw [get?_put_beside written split ne, split, Address.fills_append_of_ne _ ne]
  have whole : old.get? (place ++ other :: under) =
      (old.get? (place ++ [other])).bind fun found => found.get? under := by
    rw [← Json.get?_append, List.append_assoc, List.singleton_append]
  cases key with
  | member name =>
    cases other with
    | member other => rw [whole]; exact (Option.or_none ..).symm
    | item index => exact absurd ⟨place, index, under, ⟨name, rest, split⟩, rfl⟩ keeps
  | item index =>
    cases other with
    | member name =>
      cases there : old.get? (place ++ .member name :: under) with
      | none => rfl
      | some found =>
        rw [Json.get?_append, Option.bind_eq_some_iff] at there
        obtain ⟨container, here, inside⟩ := there
        exact absurd (Json.outline_of_get?_member inside)
          (outline_ne_of_lists written ⟨index, rest, split⟩ here)
    | item other =>
      rw [whole, Key.beside]
      cases under with
      | nil =>
        cases old.get? (place ++ [.item other]) with
        | some found => rfl
        | none => exact Option.bind_fun_some _
      | cons next under =>
        -- Deeper than the items themselves nothing is filled in.
        rw [Key.fills, Option.or_none]
        · cases old.get? (place ++ [.item other]) with
          | some found => rfl
          | none =>
            rw [Option.none_or, Option.bind_none]
            split
            · rw [Option.bind_some, Json.get?_cons, Document.child?_padding, Option.bind_none]
            · rfl
        · simp

/-- What stands beside the address of a write or below it stays, if no list around it is
entered. -/
theorem get?_put_of_not_crosses {address : Address} {found : Json}
    (written : path.put value old = some new) (object : old.outline = .obj [])
    (there : old.get? address = some found) (beside : ¬ address <+: path.address)
    (apart : ¬ path.Crosses address) : new.get? address = some found := by
  by_cases below : path.address <+: address
  · obtain ⟨rest, rfl⟩ := below
    rw [Json.get?_append, Option.bind_eq_some_iff] at there
    obtain ⟨container, here, inside⟩ := there
    rw [get?_put_self written, here, Option.getD_some, Document.overwrite]
    cases rest with
    | nil => exact absurd ⟨[], by simp⟩ beside
    | cons key rest => rw [if_pos (occupied_of_get? inside), inside]
  · rw [get?_put_of_apart written beside below, there, Option.some_or]
    rintro ⟨place, index, rest, opens, rfl⟩
    rw [Json.get?_append, Option.bind_eq_some_iff] at there
    obtain ⟨container, here, inside⟩ := there
    have array := Json.outline_of_get?_item inside
    have later : place ≠ [] := by
      rintro rfl
      cases here
      rw [object] at array
      cases array
    exact apart ⟨place, index, rest, enters_of_opens written opens later here array, rfl⟩

/-- A value that is no populated container leaves beside its path what was there, and fills up
lists. -/
theorem get?_put_of_free {address : Address} (written : path.put value old = some new)
    (free : Document.occupied value = false) (beside : ¬ address <+: path.address)
    (keeps : ¬ path.Loses address) :
    new.get? address = (old.get? address).or (path.address.fills address) := by
  by_cases below : path.address <+: address
  · rw [Address.fills_eq_none_of_prefix below, Option.or_none]
    obtain ⟨rest, rfl⟩ := below
    cases rest with
    | nil => exact absurd ⟨[], by simp⟩ beside
    | cons key rest =>
      rw [get?_put_self written, Json.get?_append, Document.overwrite]
      split
      · next occupied =>
        cases here : old.get? path.address with
        | none => rw [here] at occupied; cases occupied
        | some found => rfl
      · next empty =>
        rw [get?_of_free free]
        cases here : old.get? path.address with
        | none => rfl
        | some found =>
          rw [here, Option.getD_some, Bool.not_eq_true] at empty
          rw [Option.bind_some, get?_of_free empty]
  · exact get?_put_of_apart written beside below keeps

/-- A scalar that is written leaves beside its path what was there, and fills up lists. -/
theorem get?_put_scalar {address : Address} (written : path.put value old = some new)
    (scalar : value.isScalar = true) (beside : ¬ address <+: path.address)
    (keeps : ¬ path.Loses address) :
    new.get? address = (old.get? address).or (path.address.fills address) :=
  get?_put_of_free written (Document.not_occupied_of_isScalar scalar) beside keeps

/-- What stands at an address on the way of a path is written into along the rest of the way. -/
theorem get?_put_inside {address : Address} (written : path.put value old = some new)
    (leads : address <+: path.address) :
    ∃ found, new.get? address = some found ∧
      Document.put value (path.strides.drop address.length)
        ((old.get? address).getD .null) = some found := by
  have before : (path.strides.take address.length).map Stride.key = address := by
    rw [List.map_take, map_key_strides]
    exact (List.prefix_iff_eq_take.1 leads).symm
  rw [put, ← List.take_append_drop address.length path.strides] at written
  have inside := Document.get?_put_inside written
  rwa [before] at inside

end Path

end CaseForm

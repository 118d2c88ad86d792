import CaseForm.Proofs.Reference.Legible

/-!
References that are put together.

A reference may be continued with a dot and another one, and where it ends with a plain name, with a
subscript. What comes before the dot is then read as containers, in the same way as on its own
(`Addressing.parse_append_dot_iff`). A subscript is another matter: it is text that may be cut at a
dot, closed early, taken for a position or for the marker of the root page. Only a key without any
of these is the key of the segment that is read (`Addressing.ReadsKey`,
`Addressing.parse_entryReference`).
-/

namespace CaseForm

namespace Text

variable {sep : Char}

theorem cut_append_cons (sep : Char) (before rest : List Char) :
    cut sep (before ++ sep :: rest) = cut sep before ++ cut sep rest := by
  induction before with
  | nil => simp [cut]
  | cons c before ih =>
    by_cases same : c = sep
    · simp [cut, same, ih]
    · cases first : cut sep before with
      | nil => exact absurd first (cut_ne_nil _ _)
      | cons piece pieces => simp [cut, same, ih, first]

/-- A text without a separator goes to the last piece. -/
theorem cut_append_of_not_mem {piece : List Char} (clear : sep ∉ piece) (cs : List Char) :
    cut sep (cs ++ piece) = (cut sep cs).dropLast ++ [(cut sep cs).getLastD [] ++ piece] := by
  induction cs with
  | nil => simp [cut, cut_of_not_mem clear]
  | cons c cs ih =>
    cases first : cut sep cs with
    | nil => exact absurd first (cut_ne_nil _ _)
    | cons head pieces =>
      rw [first] at ih
      by_cases same : c = sep
      · simp [cut, same, ih, first]
      · cases pieces with
        | nil => simp_all [cut]
        | cons next pieces => simp_all [cut]

end Text

theorem referenceParts_append_dot (outer inner : String) :
    referenceParts (outer ++ "." ++ inner) = referenceParts outer ++ referenceParts inner := by
  have whole : (outer ++ "." ++ inner).toList = outer.toList ++ '.' :: inner.toList := by simp
  unfold referenceParts
  rw [whole, Text.cut_append_cons, List.map_append]

theorem referenceParts_append {text : String} (dotless : '.' ∉ text.toList) (reference : String) :
    referenceParts (reference ++ text) =
      (referenceParts reference).dropLast ++ [(referenceParts reference).getLastD "" ++ text] := by
  have last : (referenceParts reference).getLastD "" =
      String.ofList ((Text.cut '.' reference.toList).getLastD []) := by
    rw [referenceParts, List.getLastD_eq_getLast?, List.getLastD_eq_getLast?, List.getLast?_map]
    cases (Text.cut '.' reference.toList).getLast? <;> rfl
  rw [last]
  unfold referenceParts
  rw [String.toList_append, Text.cut_append_of_not_mem dotless, List.map_append, List.map_dropLast,
    List.map_singleton, String.ofList_append, String.ofList_toList]

/-! ### Segments -/

namespace Segment

variable {reference text name key : String} {segment : Segment}

/-- The reference around a segment only shows in errors. -/
theorem parse_congr (read : parse reference text = .ok segment) (other : String) :
    parse other text = .ok segment := by
  rcases parse_eq_ok_iff.1 read with plain |
    ⟨name, key, split, named, closed, filled, balanced, read⟩
  · exact parse_eq_ok_iff.2 (.inl plain)
  · refine parse_eq_ok_iff.2 (.inr ⟨name, key, split, named, closed, filled, balanced, ?_⟩)
    unfold ofSubscript at read ⊢
    split at read
    · next position whole =>
      split_ifs at read with positive
      rw [if_pos positive, read]
    · exact read

/-- An entry of a group is written just as it is read. -/
theorem text_of_parse_groupEntry (read : parse reference text = .ok (groupEntry name key)) :
    (groupEntry name key).text = text := by
  rcases parse_eq_ok_iff.1 read with ⟨absurd, -⟩ | ⟨name, key, split, -, -, -, -, read⟩
  · cases absurd
  · unfold ofSubscript at read
    split at read
    · split_ifs at read
      cases read
    · cases read
      apply String.toList_inj.1
      rw [toList_text_groupEntry, String.toList_ofList, String.toList_ofList, split]

end Segment

/-! ### References -/

namespace Addressing

variable {addressing : Addressing} {reference : String} {path : Path} {parts : List String}
  {segments : List Segment}

/-- Markers of the root page are passed over. -/
theorem parseContainers_filter :
    addressing.parseContainers reference (parts.filter (· != addressing.rootPage)) =
      addressing.parseContainers reference parts := by
  induction parts with
  | nil => rfl
  | cons part parts ih =>
    by_cases marked : part = addressing.rootPage
    · rw [List.filter_cons_of_neg (by simpa using marked), ih, parseContainers, if_pos marked]
    · rw [List.filter_cons_of_pos (by simpa using marked), parseContainers, parseContainers, ih]

theorem parseContainers_congr (read : addressing.parseContainers reference parts = .ok segments)
    (other : String) : addressing.parseContainers other parts = .ok segments := by
  induction parts generalizing segments with
  | nil => exact read
  | cons part parts ih =>
    by_cases marked : part = addressing.rootPage
    · rw [parseContainers, if_pos marked] at read ⊢
      exact ih read
    · obtain ⟨first, rest, rfl, here, read⟩ := (parseContainers_cons_eq_ok_iff marked).1 read
      exact (parseContainers_cons_eq_ok_iff marked).2
        ⟨first, rest, rfl, Segment.parse_congr here other, ih read⟩

theorem parseContainers_append_eq_ok_iff {after : List String} :
    addressing.parseContainers reference (parts ++ after) = .ok segments ↔
      ∃ before rest, segments = before ++ rest ∧
        addressing.parseContainers reference parts = .ok before ∧
        addressing.parseContainers reference after = .ok rest := by
  induction parts generalizing segments with
  | nil => simp [parseContainers]
  | cons part parts ih =>
    by_cases marked : part = addressing.rootPage
    · simp only [List.cons_append, parseContainers, if_pos marked, ih]
    · rw [List.cons_append, parseContainers_cons_eq_ok_iff marked]
      simp only [ih, parseContainers_cons_eq_ok_iff marked]
      constructor
      · rintro ⟨first, _, rfl, here, before, rest, rfl, read, last⟩
        exact ⟨first :: before, rest, rfl, ⟨first, before, rfl, here, read⟩, last⟩
      · rintro ⟨_, rest, rfl, ⟨first, before, rfl, here, read⟩, last⟩
        exact ⟨first, before ++ rest, rfl, here, before, rest, rfl, read, last⟩

/-- What comes before a dot is read as containers. -/
theorem parse_append_dot_iff {outer inner : String} :
    addressing.parse (outer ++ "." ++ inner) = .ok path ↔
      ∃ before within,
        addressing.parseContainers outer (referenceParts outer) = .ok before ∧
        (∀ segment ∈ before, addressing.exceeds segment = false) ∧
        addressing.parse inner = .ok within ∧
        path = ⟨before ++ within.containers, within.leaf⟩ := by
  have last : (referenceParts outer ++ referenceParts inner).getLastD "" =
      (referenceParts inner).getLastD "" := by
    simp [List.getLastD_eq_getLast?, List.getLast?_append,
      List.getLast?_eq_some_getLast (referenceParts_ne_nil inner)]
  rw [parse_eq_ok_iff, referenceParts_append_dot, last,
    List.dropLast_append_of_ne_nil (referenceParts_ne_nil inner), parseContainers_append_eq_ok_iff]
  have apart (before rest : List Segment) (leaf : Segment) :
      (∀ segment ∈ (Path.mk (before ++ rest) leaf).segments, addressing.exceeds segment = false) ↔
        (∀ segment ∈ before, addressing.exceeds segment = false) ∧
          ∀ segment ∈ (Path.mk rest leaf).segments, addressing.exceeds segment = false := by
    rw [Path.segments, List.append_assoc, List.forall_mem_append]
    rfl
  constructor
  · obtain ⟨containers, leaf⟩ := path
    rintro ⟨tail, ⟨before, rest, rfl, read, others⟩, bounds⟩
    obtain ⟨first, second⟩ := (apart _ _ _).1 bounds
    exact ⟨before, ⟨rest, leaf⟩, parseContainers_congr read _, first, parse_eq_ok_iff.2
      ⟨Segment.parse_congr tail _, parseContainers_congr others _, second⟩, rfl⟩
  · rintro ⟨before, ⟨rest, leaf⟩, read, first, inside, rfl⟩
    obtain ⟨tail, others, second⟩ := parse_eq_ok_iff.1 inside
    exact ⟨Segment.parse_congr tail _, ⟨before, rest, rfl, parseContainers_congr read _,
      parseContainers_congr others _⟩, (apart _ _ _).2 ⟨first, second⟩⟩

end Addressing

/-! ### Subscripts -/

/-- The reference of a field in an entry of a group. -/
def entryReference (reference key field : String) : String :=
  reference ++ ("(" ++ key ++ ")") ++ "." ++ field

namespace Addressing

variable {addressing : Addressing} {reference name key field : String} {containers : List Segment}
  {within : Path}

/-- Whether a key is read as the key of an entry of a group of this name: it has no dots and no
parentheses, is no position, and the entry does not look like a marker of the root page. -/
structure ReadsKey (addressing : Addressing) (name key : String) : Prop where
  filled : key ≠ ""
  dotless : '.' ∉ key.toList
  unopened : '(' ∉ key.toList
  unclosed : ')' ∉ key.toList
  positionless : wholeNumber? key.toList = none
  unmarked : (Segment.groupEntry name key).text ≠ addressing.rootPage

instance (addressing : Addressing) (name key : String) : Decidable (addressing.ReadsKey name key) :=
  decidable_of_iff (key ≠ "" ∧ '.' ∉ key.toList ∧ '(' ∉ key.toList ∧ ')' ∉ key.toList ∧
      wholeNumber? key.toList = none ∧ (Segment.groupEntry name key).text ≠ addressing.rootPage)
    ⟨fun ⟨a, b, c, d, e, f⟩ => ⟨a, b, c, d, e, f⟩, fun ⟨a, b, c, d, e, f⟩ => ⟨a, b, c, d, e, f⟩⟩

/-- The group that a reference with a plain last segment names is the last part of it. -/
theorem name_of_parse (parsed : addressing.parse reference = .ok ⟨containers, .page name⟩) :
    (referenceParts reference).getLastD "" = name ∧ name ≠ "" ∧ '(' ∉ name.toList := by
  have legible := legible_of_parse parsed (.page name) (by simp [Path.segments])
  obtain ⟨last, -, -⟩ := parse_eq_ok_iff.1 parsed
  rcases Segment.parse_eq_ok_iff.1 last with ⟨same, -⟩ | ⟨_, _, -, -, -, -, -, read⟩
  · cases same
    exact ⟨rfl, legible.1.1, legible.1.2.1⟩
  · unfold Segment.ofSubscript at read
    split at read
    · split_ifs at read
      cases read
    · cases read

/-- What the parts of an entry's reference are. -/
theorem referenceParts_entry (parsed : addressing.parse reference = .ok ⟨containers, .page name⟩)
    (dotless : '.' ∉ key.toList) :
    referenceParts (reference ++ ("(" ++ key ++ ")")) =
      (referenceParts reference).dropLast ++ [(Segment.groupEntry name key).text] := by
  rw [referenceParts_append (by simpa using dotless), (name_of_parse parsed).1, Segment.text,
    ← String.append_assoc, ← String.append_assoc]

/-- A field of an entry is reached through the group and the entry. -/
theorem parse_entryReference (parsed : addressing.parse reference = .ok ⟨containers, .page name⟩)
    (reads : addressing.ReadsKey name key) (inside : addressing.parse field = .ok within) :
    addressing.parse (entryReference reference key field) =
      .ok ⟨containers ++ .groupEntry name key :: within.containers, within.leaf⟩ := by
  obtain ⟨-, named, closed⟩ := name_of_parse parsed
  obtain ⟨-, outer, bounds⟩ := parse_eq_ok_iff.1 parsed
  have legible : (Segment.groupEntry name key).Legible :=
    ⟨named, closed, reads.filled, reads.unopened, reads.unclosed, reads.positionless⟩
  refine parse_append_dot_iff.2 ⟨containers ++ [.groupEntry name key], within, ?_, ?_, inside, ?_⟩
  · rw [referenceParts_entry parsed reads.dotless]
    refine parseContainers_append_eq_ok_iff.2
      ⟨containers, _, rfl, parseContainers_congr outer _, ?_⟩
    exact (parseContainers_cons_eq_ok_iff reads.unmarked).2
      ⟨_, [], rfl, Segment.parse_text legible, rfl⟩
  · intro segment mem
    rcases List.mem_append.1 mem with before | entry
    · exact bounds segment (List.mem_append_left _ before)
    · rw [List.mem_singleton.1 entry]
      rfl
  · rw [List.append_assoc, List.singleton_append]

/-- If the segment before a field is read as the entry with the key, the key can be read so. -/
theorem readsKey_of_parse (parsed : addressing.parse reference = .ok ⟨containers, .page name⟩)
    {path : Path} {leaf : Segment} (inside : addressing.parse field = .ok ⟨[], leaf⟩)
    (read : addressing.parse (entryReference reference key field) = .ok path)
    (last : path.containers.getLast? = some (.groupEntry name key)) :
    addressing.ReadsKey name key := by
  have entry : Segment.groupEntry name key ∈ path.containers := List.mem_of_getLast? last
  obtain ⟨⟨-, -, filled, unopened, unclosed, positionless⟩, whole⟩ :=
    legible_of_parse read _ (List.mem_append_left _ entry)
  rw [Segment.toList_text_groupEntry] at whole
  simp only [List.mem_append, List.mem_cons, not_or] at whole
  refine ⟨filled, whole.2.2.1, unopened, unclosed, positionless, fun marked => ?_⟩
  -- The entry itself is passed over, so it is a container of the group that looks the same.
  obtain ⟨before, _, outer, -, also, rfl⟩ := parse_append_dot_iff.1 read
  rw [inside] at also
  cases also
  rw [referenceParts_entry parsed whole.2.2.1, marked] at outer
  obtain ⟨around, rest, rfl, outer, skipped⟩ := parseContainers_append_eq_ok_iff.1 outer
  rw [parseContainers, if_pos rfl] at skipped
  cases skipped
  rw [← parseContainers_filter] at outer
  obtain ⟨part, there, written⟩ := exists_part_of_parseContainers outer _ (by simpa using entry)
  rw [Segment.text_of_parse_groupEntry written] at marked
  simpa [marked] using (List.mem_filter.1 there).2

end Addressing

end CaseForm

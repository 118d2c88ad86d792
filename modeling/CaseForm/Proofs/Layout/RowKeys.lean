import CaseForm.Layout.RowKey
import CaseForm.Proofs.Reference.Grammar

/-!
What the key of a row is taken from.

A row stands for the entry that its bound fields lead into. A reference names an entry by its last
subscript (`LastSubscript`), and the fields of the row are asked for it in order. A field whose
reference has no subscript does not answer, and then the next one is asked. So the first bound field
of a row decides its key just if it has a subscript to give.

* `deepestSubscript?_eq_some_iff`: what one field answers;
* `Row.groupKey?_of_leads`: what a row answers, by its first bound field and the groups after it;
* `first_field_decides_iff`: when the first bound field decides.
-/

namespace CaseForm

/-! ### The last subscript of a reference -/

namespace Segment

variable {reference part name key : String} {segment : Segment}

theorem subscript?_bracketed (unopened : '(' ∉ name.toList) :
    subscript? (bracketed name key) = some key := by
  rw [subscript?, toList_bracketed, splitSubscript_append unopened, Option.map_some,
    List.dropLast_concat, String.ofList_toList]

/-- An element of a list or an entry of a group is written with a subscript. -/
theorem exists_bracketed_of_isRepeat (read : parse reference part = .ok segment)
    (subscripted : segment.isRepeat = true) : ∃ name key, part = bracketed name key := by
  rcases malformed_or_form reference part with ⟨reason, malformed⟩ | plain | ⟨name, key, split, -⟩
  · rw [malformed] at read
    cases read
  · rw [parse_word plain] at read
    cases read
    cases subscripted
  · exact ⟨name, key, split⟩

theorem IsAt.isRepeat (at_ : segment.IsAt name key) : segment.isRepeat = true := by
  cases segment with
  | page name => exact at_.elim
  | listItem name index => rfl
  | groupEntry name key => rfl

/-- A part of a reference that is read as an element of a list or an entry of a group, with its
subscript as it is written. -/
def Subscripted (reference part key : String) : Prop :=
  ∃ name segment, part = bracketed name key ∧ parse reference part = .ok segment

theorem repeatSubscript?_eq_some_iff :
    repeatSubscript? reference part = some key ↔ Subscripted reference part key := by
  unfold repeatSubscript?
  cases read : parse reference part with
  | error error => simp [Subscripted, read]
  | ok segment =>
    dsimp only
    constructor
    · intro found
      rw [Option.ite_none_right_eq_some] at found
      obtain ⟨subscripted, found⟩ := found
      obtain ⟨name, inner, rfl⟩ := exists_bracketed_of_isRepeat read subscripted
      rw [subscript?_bracketed (unopened_of_parse read)] at found
      cases found
      exact ⟨name, segment, rfl, read⟩
    · rintro ⟨name, also, rfl, -⟩
      rw [if_pos (isAt_of_parse read).isRepeat, subscript?_bracketed (unopened_of_parse read)]

end Segment

/-- The last subscript in a reference, as it is written: no part after it is read as an element of a
list or an entry of a group. -/
def LastSubscript (reference key : String) : Prop :=
  ∃ before part after, referenceParts reference = before ++ part :: after ∧
    Segment.Subscripted reference part key ∧
      ∀ later ∈ after, ∀ other, ¬ Segment.Subscripted reference later other

theorem deepestSubscript?_eq_some_iff {reference key : String} :
    deepestSubscript? reference = some key ↔ LastSubscript reference key := by
  unfold deepestSubscript? LastSubscript
  rw [List.findSome?_eq_some_iff]
  simp only [Segment.repeatSubscript?_eq_some_iff, Option.eq_none_iff_forall_ne_some, ne_eq]
  constructor
  · rintro ⟨after, part, before, split, subscripted, none⟩
    refine ⟨before.reverse, part, after.reverse, ?_, subscripted, ?_⟩
    · rw [← List.reverse_inj, split]
      simp
    · intro later mem
      exact none later (List.mem_reverse.1 mem)
  · rintro ⟨before, part, after, split, subscripted, none⟩
    refine ⟨after.reverse, part, before.reverse, ?_, subscripted, ?_⟩
    · simp [split]
    · intro later mem
      exact none later (List.mem_reverse.1 mem)

/-! ### The fields of a row -/

/-- The first bound field of a row, and the groups after it. -/
def Row.Leads (row : Row) (field : Field) (after : List Group) : Prop :=
  field.isBound = true ∧ ∃ before, row.groups = before ++ .field field :: after ∧
    ∀ other, .field other ∈ before → other.isBound = false

theorem Group.boundReference?_eq_none_iff {group : Group} :
    group.boundReference? = none ↔ ∀ field, group = .field field → field.isBound = false := by
  cases group <;> simp [Group.boundReference?]

/-- The first bound field answers, or else the groups after it decide like a row of their own. -/
theorem Row.groupKey?_of_leads {row : Row} {field : Field} {after : List Group}
    (leads : row.Leads field after) :
    row.groupKey? = (deepestSubscript? field.reference).or (Row.groupKey? ⟨after⟩) := by
  obtain ⟨bound, before, split, unbound⟩ := leads
  have silent : before.filterMap Group.boundReference? = [] := by
    rw [List.filterMap_eq_nil_iff]
    intro group mem
    rw [Group.boundReference?_eq_none_iff]
    rintro other rfl
    exact unbound other mem
  have answers : Group.boundReference? (.field field) = some field.reference := by
    rw [Group.boundReference?, if_pos bound]
  unfold Row.groupKey?
  rw [split, List.filterMap_append, silent, List.nil_append, List.filterMap_cons_some answers,
    List.findSome?_cons]
  cases deepestSubscript? field.reference <;> rfl

/-- A field that is bound to a property. -/
def boundField (reference : String) : Field := { Field.record.blank with reference := reference }

/-- A bound field in front leads a row. -/
theorem Row.leads_cons {field : Field} (bound : field.isBound = true) (after : List Group) :
    Row.Leads ⟨.field field :: after⟩ field after := by
  refine ⟨bound, [], rfl, ?_⟩
  intro other mem
  exact absurd mem List.not_mem_nil

/-- When the first bound field of a row decides its key. A field names the last subscript in its
reference, as it is written there. Rows with the same first bound field, whatever stands before it
and after it, have the same key just if the field names one, and then that is the key. Otherwise the
groups after the field decide, like a row of their own. -/
theorem first_field_decides_iff {field : Field} (bound : field.isBound = true) :
    (∀ key, deepestSubscript? field.reference = some key ↔ LastSubscript field.reference key) ∧
    (∀ (row : Row) after, row.Leads field after →
      row.groupKey? = (deepestSubscript? field.reference).or (Row.groupKey? ⟨after⟩)) ∧
    ((∀ (row other : Row) after rest, row.Leads field after → other.Leads field rest →
      row.groupKey? = other.groupKey?) ↔ ∃ key, LastSubscript field.reference key) := by
  refine ⟨fun key => deepestSubscript?_eq_some_iff, fun row after => Row.groupKey?_of_leads, ?_, ?_⟩
  · intro decides
    -- A field with a subscript makes the difference if the first one has none.
    let subscripted : Group := .field (boundField "List(1)")
    have single := Row.leads_cons bound []
    have double := Row.leads_cons bound [subscripted]
    have same := decides _ _ _ _ single double
    rw [Row.groupKey?_of_leads single, Row.groupKey?_of_leads double] at same
    cases named : deepestSubscript? field.reference with
    | none =>
      rw [named] at same
      exact absurd same (by decide)
    | some key => exact ⟨key, deepestSubscript?_eq_some_iff.1 named⟩
  · rintro ⟨key, last⟩ row other after rest leads also
    have named := deepestSubscript?_eq_some_iff.2 last
    rw [Row.groupKey?_of_leads leads, Row.groupKey?_of_leads also, named]
    rfl

/-- A field with subscripts decides by the last of them, with other fields after it and without. -/
theorem last_subscript_decides :
    let field := boundField "Accounts(Primary).Owners(Main).Name"
    let others : List Group := [.field (boundField "Accounts(Other)")]
    LastSubscript field.reference "Main" ∧
      Row.groupKey? ⟨[.field field]⟩ = some "Main" ∧
      Row.groupKey? ⟨.field field :: others⟩ = some "Main" := by
  intro field others
  have bound : field.isBound = true := by decide
  obtain ⟨named, answers, decides⟩ := first_field_decides_iff bound
  have last : LastSubscript field.reference "Main" := (named "Main").1 (by decide)
  have single := Row.leads_cons bound []
  have alone : Row.groupKey? ⟨[.field field]⟩ = some "Main" := by
    rw [answers _ _ single, (named "Main").2 last]
    rfl
  refine ⟨last, alone, ?_⟩
  rw [← alone]
  exact decides.2 ⟨"Main", last⟩ _ _ _ _ (Row.leads_cons bound others) single

/-- A field without a subscript leaves the decision to the next one: two rows that begin with the
same bound field have different keys, and the reference of that field has no last subscript. -/
theorem later_field_decides :
    let field := boundField "Name"
    let others : List Group := [.field (boundField "Accounts(Primary).Balance")]
    Row.Leads ⟨[.field field]⟩ field [] ∧ Row.Leads ⟨.field field :: others⟩ field others ∧
      (∀ key, ¬ LastSubscript field.reference key) ∧
      Row.groupKey? ⟨[.field field]⟩ = none ∧
      Row.groupKey? ⟨.field field :: others⟩ = some "Primary" := by
  intro field others
  have bound : field.isBound = true := by decide
  refine ⟨Row.leads_cons bound [], Row.leads_cons bound others, ?_, by decide, by decide⟩
  intro key last
  have none : deepestSubscript? field.reference = none := by decide
  rw [← deepestSubscript?_eq_some_iff, none] at last
  cases last

end CaseForm

import CaseForm.Proofs.Form.Failure
import CaseForm.Proofs.Json.Same
import CaseForm.Proofs.Render.Drawn

/-!
What a rendering says of a field's value.

A rendered field does not depend on what is wrong with its value: that is put around it at the end
(`Renderer.field_eq`). So what is said of a field is a matter of two lookups. One is in the table of
messages, under the reference of the field. The other compares the value being edited with the value
that the server sent, and the two sides are not treated alike: an edited `null` counts as the empty
text, and the server's does not.

* `server_message_shown`: when a field shows what the server found wrong with the value that the
  server sent along;
* `unbound_unannotated`: when the messages of the server leave the fields alone that are bound to no
  property.
-/

namespace CaseForm

/-! ### A field, and what is said of it -/

/-- A tree with a message around it, if there is one. -/
def Node.noting (message : Option String) (node : Node) : Node :=
  match message with
  | some message => .annotated message node
  | none => node

theorem Node.noting_eq_annotated_iff {message : Option String} {text : String} {leaf : FieldNode} :
    Node.noting message (.field leaf) = .annotated text (.field leaf) ↔ message = some text := by
  cases message <;> simp [Node.noting]

namespace Field

variable {field : Field} {current : Json}

/-- The leaf for a field that has a widget. -/
def leaf (field : Field) (showLabel : Bool) (drawn : Widget × Option TriggerEvent) : FieldNode where
  reference := field.reference
  name := field.name
  label :=
    if field.control.kind.labelsItself && !field.showLabel then none
    else field.shownLabel showLabel
  required := field.required
  disabled := field.disabled || (field.readOnly && field.control.kind == .button)
  readOnly := field.readOnly
  widget := drawn.1
  trigger := field.trigger? drawn.2

/-- What the table says comes first. -/
theorem problem?_of_named {errors : ValidationErrors} {message : String}
    (named : errors.get? field.reference = some message) :
    field.problem? current errors = some message := by
  simp only [problem?, named]

/-- Where the table names no problem, the server's message stands as long as the value is the
server's. -/
theorem problem?_of_unnamed {errors : ValidationErrors}
    (unnamed : errors.get? field.reference = none) :
    field.problem? current errors =
      if field.validationMessages ≠ "" ∧ current.same field.value then
        some field.validationMessages
      else none := by
  simp only [problem?, unnamed]

/-- A value that the server sent is taken for the same, unless it is `null`. -/
theorem same_current_iff {values : Table Json}
    (echoed : values.get? field.reference = some field.value) :
    (field.current values).same field.value = true ↔ field.value ≠ .null := by
  unfold Field.current
  rw [echoed]
  cases value : field.value with
  | null => simp [Json.same]
  | _ => simp [Json.same_refl]

end Field

namespace Renderer

variable {renderer : Renderer} {field : Field} {context : RenderContext} {showLabel : Bool}

/-- A visible field with a widget is a leaf with what is wrong with its value around it. -/
theorem field_of_visible (visible : field.visible = true) :
    renderer.field field context showLabel =
      (renderer.widget field context (field.shownLabel showLabel)).map (Option.map fun drawn =>
        Node.noting (field.problem? (field.current context.values) context.errors)
          (.field (field.leaf showLabel drawn))) := by
  unfold Renderer.field
  simp only [visible, Bool.not_true, Bool.false_eq_true, if_false]
  cases ran : renderer.widget field context (field.shownLabel showLabel) with
  | error unwritable => rfl
  | ok drawn =>
    cases drawn with
    | none => rfl
    | some drawn =>
      cases field.problem? (field.current context.values) context.errors <;> rfl

/-- Renders a field without a word on what is wrong with its value. -/
def bare (renderer : Renderer) (field : Field) (context : RenderContext) (showLabel : Bool) :
    Except UnwritableDate (Option Node) :=
  renderer.field { field with validationMessages := "" } { context with errors := .empty } showLabel

/-- Neither the server's message nor the table is read for a widget. -/
theorem bare_of_visible (visible : field.visible = true) :
    renderer.bare field context showLabel =
      (renderer.widget field context (field.shownLabel showLabel)).map
        (Option.map fun drawn => .field (field.leaf showLabel drawn)) := by
  have silent : ({ field with validationMessages := "" } : Field).problem?
      (field.current context.values) .empty = none := by simp [Field.problem?]
  unfold bare
  rw [@field_of_visible renderer { field with validationMessages := "" } _ showLabel visible]
  change (renderer.widget field context _).map (Option.map fun drawn =>
    Node.noting (Field.problem? _ (field.current context.values) .empty)
      (.field (field.leaf showLabel drawn))) = _
  rw [silent]
  rfl

/-- A field is rendered as if nothing were wrong with it, and a message is put around that. -/
theorem field_eq :
    renderer.field field context showLabel =
      (renderer.bare field context showLabel).map (Option.map
        (Node.noting (field.problem? (field.current context.values) context.errors))) := by
  cases visible : field.visible with
  | false => simp [bare, Renderer.field, visible, Except.map]
  | true =>
    rw [field_of_visible visible, bare_of_visible visible]
    rcases renderer.widget field context (field.shownLabel showLabel) with _ | _ | _ <;> rfl

/-- Whether the field's date can be written, if it is one that cannot be edited. -/
def CanWrite (renderer : Renderer) (field : Field) (context : RenderContext) : Prop :=
  field.control.kind = .dateTime → field.readOnly = true →
    ∃ text, displayedDate renderer.settings (field.current context.values).displayText = .ok text

/-- Any control but a hidden one has a widget, if no date stands in the way. -/
theorem exists_widget_iff {label : Option String} (shown : field.control.kind ≠ .hidden) :
    (∃ drawn, renderer.widget field context label = .ok (some drawn)) ↔
      renderer.CanWrite field context := by
  unfold widget CanWrite
  cases kind : field.control.kind with
  | hidden => exact absurd kind shown
  | dateTime =>
    cases field.readOnly with
    | false => simp
    | true =>
      cases date : displayedDate renderer.settings (field.current context.values).displayText <;>
        simp [Except.bind, date]
  | radioButtons | displayText | button | label | link | icon | subscript | unsupported => simp
  | _ => cases field.readOnly <;> simp

/-- A field is drawn as a leaf unless it shows a date that cannot be written. -/
theorem exists_bare_iff (drawn : field.isDrawn = true) :
    (∃ leaf, renderer.bare field context showLabel = .ok (some (.field leaf))) ↔
      renderer.CanWrite field context := by
  unfold Field.isDrawn at drawn
  rw [Bool.and_eq_true, bne_iff_ne] at drawn
  obtain ⟨visible, shown⟩ := drawn
  rw [bare_of_visible visible, ← @exists_widget_iff _ _ _ (field.shownLabel showLabel) shown]
  rcases renderer.widget field context (field.shownLabel showLabel) with _ | _ | _ <;>
    simp [Except.map]

end Renderer

/-! ### What the server says of the value it sent -/

/-- When a field shows what the server found wrong with the value that the server sent along. Let
the form hold that value, as it does from the start until the field is edited, and let the table of
messages not name the field. Then the field is drawn with the server's message around it unless the
server sent no value with it: a missing value and `null` are edited as the empty text, which is not
taken for what the server sent. (A date that cannot be edited and cannot be written by the pattern
for showing dates is not drawn at all.) -/
theorem server_message_shown {renderer : Renderer} {field : Field} {context : RenderContext}
    {showLabel : Bool} (drawn : field.isDrawn = true) (blamed : field.validationMessages ≠ "")
    (echoed : context.values.get? field.reference = some field.value)
    (unnamed : context.errors.get? field.reference = none) :
    (∃ leaf, renderer.bare field context showLabel = .ok (some (.field leaf)) ∧
      renderer.field field context showLabel =
        .ok (some (.annotated field.validationMessages (.field leaf)))) ↔
      field.value ≠ .null ∧ renderer.CanWrite field context := by
  have said : field.problem? (field.current context.values) context.errors =
      some field.validationMessages ↔ field.value ≠ .null := by
    rw [Field.problem?_of_unnamed unnamed, ← Field.same_current_iff echoed]
    simp [blamed]
  rw [← @Renderer.exists_bare_iff _ _ _ showLabel drawn, ← said]
  constructor
  · rintro ⟨leaf, bare, around⟩
    rw [Renderer.field_eq, bare] at around
    simp only [Except.map, Option.map_some, Except.ok.injEq, Option.some.injEq,
      Node.noting_eq_annotated_iff] at around
    exact ⟨around, leaf, bare⟩
  · rintro ⟨problem, leaf, bare⟩
    refine ⟨leaf, bare, ?_⟩
    rw [Renderer.field_eq, bare, problem]
    rfl

/-- A text field with a value of the server and what the server found wrong with it. -/
def faultyField (value : Json) : Field :=
  { Field.record.blank with
    reference := "A"
    value := value
    validationMessages := "Required"
    control := { Control.undefined with kind := .textInput } }

/-- A view with that field. -/
def faultyView (value : Json) : View := ⟨"V", true, [.field (faultyField value)], none⟩

/-- A text that the server finds fault with has the message around it. -/
theorem server_message_shown_on_text :
    ∃ leaf, (Renderer.ofSettings {}).field (faultyField (.str "?"))
      (sampleContext (faultyView (.str "?"))) true =
        .ok (some (.annotated "Required" (.field leaf))) := by
  obtain ⟨leaf, -, around⟩ := (@server_message_shown (.ofSettings {}) (faultyField (.str "?"))
    (sampleContext (faultyView (.str "?"))) true rfl (by decide) rfl rfl).2 ⟨nofun, nofun⟩
  exact ⟨leaf, around⟩

/-- A required field without a value: the form begins with what the server sent and nothing has been
edited, but the server's message is not shown. -/
theorem server_message_lost_on_null :
    let field := faultyField .null
    let context := sampleContext (faultyView .null)
    field.isDrawn = true ∧ field.validationMessages ≠ "" ∧
      context.values.get? field.reference = some field.value ∧
      context.errors.get? field.reference = none ∧
      ∃ leaf, (Renderer.ofSettings {}).field field context true = .ok (some (.field leaf)) :=
  ⟨rfl, by decide, rfl, rfl, _, rfl⟩

/-! ### Messages that belong to no field -/

/-- Only a lone dot is left with nothing when its dot is left out. -/
theorem expandRelative_eq_empty_iff {reference : String} :
    expandRelative reference = "" ↔ reference = "" ∨ reference = "." := by
  rw [← String.toList_inj, ← String.toList_inj, ← String.toList_inj]
  unfold expandRelative
  split
  · next rest dotted => simp [dotted]
  · next undotted =>
    simp only [String.toList_empty, iff_self_or]
    intro dot
    exact absurd dot (undotted [])

namespace ValidationErrors

variable {errors : ValidationErrors} {message : ValidationMessage} {payload : ValidationPayload}
  {payloads : List ValidationPayload} {reference : String}

/-- A message has no place if it has no path or an empty one, but a dot is a path too, and leads to
the empty reference. -/
theorem at?_empty_eq_none_iff : at? message "" = none ↔ message.path ≠ some "." := by
  unfold at?
  cases message.path with
  | none => simp
  | some path =>
    by_cases empty : path = ""
    · simp [empty]
    · simp [empty, @eq_comm _ "", expandRelative_eq_empty_iff]

theorem get?_merge_eq_none_iff :
    (errors.merge payload).get? reference = none ↔
      errors.get? reference = none ∧
        ∀ message ∈ payload.messages, at? message reference = none := by
  obtain ⟨messages⟩ := payload
  induction messages generalizing errors with
  | nil => simp [merge]
  | cons message messages ih =>
    change (merge (errors.add message) ⟨messages⟩).get? reference = none ↔ _
    rw [ih, get?_add, Option.or_eq_none_iff, List.forall_mem_cons]
    tauto

/-- However many payloads come in, a reference has a message only if one of theirs comes to it. -/
theorem get?_foldl_merge_eq_none_iff :
    (payloads.foldl merge errors).get? reference = none ↔
      errors.get? reference = none ∧
        ∀ payload ∈ payloads, ∀ message ∈ payload.messages, at? message reference = none := by
  induction payloads generalizing errors with
  | nil => simp
  | cons payload payloads ih =>
    rw [List.foldl_cons, ih, get?_merge_eq_none_iff, List.forall_mem_cons, and_assoc]

/-- Whether a field that is bound to no property is never drawn otherwise for the messages in the
table. -/
def SparesUnbound (errors : ValidationErrors) : Prop :=
  ∀ (renderer : Renderer) (field : Field) (context : RenderContext) (showLabel : Bool),
    field.isBound = false → context.errors = errors →
      renderer.field field context showLabel =
        renderer.field field { context with errors := .empty } showLabel

/-- All fields that are bound to no property are looked up under one key. -/
theorem sparesUnbound_iff : errors.SparesUnbound ↔ errors.get? "" = none := by
  constructor
  · intro spares
    cases found : errors.get? "" with
    | none => rfl
    | some message =>
      let renderer : Renderer := .ofSettings {}
      let context : RenderContext := ⟨.empty, errors, .empty, ⟨0, 0, 0⟩⟩
      obtain ⟨leaf, bare⟩ :
          ∃ leaf, renderer.bare Field.record.blank context true = .ok (some (.field leaf)) :=
        ⟨_, rfl⟩
      have plain : renderer.field Field.record.blank { context with errors := .empty } true =
          .ok (some (.field leaf)) := bare
      have noted : renderer.field Field.record.blank context true =
          .ok (some (.annotated message (.field leaf))) := by
        rw [Renderer.field_eq, bare, Field.problem?_of_named found]
        rfl
      have same := spares renderer Field.record.blank context true rfl rfl
      rw [noted, plain] at same
      cases same
  · rintro none renderer field context showLabel unbound rfl
    have unnamed : context.errors.get? field.reference = .none := by
      rw [show field.reference = "" by simpa [Field.isBound] using unbound, none]
    rw [Renderer.field_eq, Renderer.field_eq, Field.problem?_of_unnamed unnamed,
      Field.problem?_of_unnamed rfl]
    rfl

end ValidationErrors

/-- When the messages of the server leave the fields alone that are bound to no property, such as
buttons, labels and header cells. Let any payloads come in, one after another. The table that they
leave has no message under the empty reference, and so none around such a field, as long as no
message has a lone dot for its path. Messages without a path are passed over, and so are those with
an empty one, but that is looked at before the dot of a relative path is left out. -/
theorem unbound_unannotated (payloads : List ValidationPayload) :
    let errors := payloads.foldl ValidationErrors.merge .empty
    let dotless :=
      ∀ payload ∈ payloads, ∀ message ∈ payload.messages, message.path ≠ some "."
    (errors.get? "" = none ↔ dotless) ∧ (errors.SparesUnbound ↔ dotless) := by
  intro errors dotless
  have bare : errors.get? "" = none ↔ dotless := by
    rw [ValidationErrors.get?_foldl_merge_eq_none_iff]
    simp only [Table.get?_empty, true_and, ValidationErrors.at?_empty_eq_none_iff, dotless]
  exact ⟨bare, ValidationErrors.sparesUnbound_iff.trans bare⟩

/-- A message on the page as a whole stands around every button. -/
theorem dot_annotates_unbound :
    let errors := [ValidationPayload.mk [⟨some ".", "Page is locked"⟩]].foldl
      ValidationErrors.merge .empty
    let button : Field := { Field.record.blank with
      control := { Control.undefined with kind := .button } }
    let context : RenderContext := ⟨.empty, errors, .empty, ⟨0, 0, 0⟩⟩
    errors.get? "" = some "Page is locked" ∧ button.isBound = false ∧
      ∃ leaf, (Renderer.ofSettings {}).field button context true =
        .ok (some (.annotated "Page is locked" (.field leaf))) :=
  ⟨rfl, rfl, _, rfl⟩

end CaseForm

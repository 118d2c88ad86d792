import CaseForm.Layout.RepeatKind
import CaseForm.Proofs.Json.Spelling

/-!
Codecs that read again what they have written.

A codec rereads a value if every spelling of what it writes for the value is read as the value
(`Codec.Rereads`), and it is steady if it rereads whatever it reads (`Codec.Steady`). The two
differ: what is read may be written in another form than it had, as a tag with an alias or a text
that was `null`, and a value that nothing is read as need not be reread.
-/

namespace CaseForm

namespace Codec

variable {α β : Type} {codec : Codec α}

/-- Whatever the codec reads has the property. -/
def Yields (codec : Codec α) (holds : α → Prop) : Prop :=
  ∀ written value, codec.read written = .ok value → holds value

/-- Every spelling of what is written for the value is read as the value. -/
structure Rereads (codec : Codec α) (value : α) : Prop where
  /-- Else a spelling in key order would lose members. -/
  distinct : (codec.write value).Distinct
  read : ∀ text, (codec.write value).Spells text → codec.read text = .ok value

/-- The codec rereads whatever it reads. -/
def Steady (codec : Codec α) : Prop := codec.Yields codec.Rereads

/-- The codec does not write `null`. -/
def Solid (codec : Codec α) : Prop := ∀ value, codec.write value ≠ .null

theorem bind_eq_ok_iff {first : Except DecodeError α} {next : α → Except DecodeError β}
    {result : β} :
    (first >>= next) = .ok result ↔ ∃ value, first = .ok value ∧ next value = .ok result := by
  cases first with
  | error e => exact ⟨nofun, fun ⟨_, absurd, _⟩ => nomatch absurd⟩
  | ok value => exact ⟨fun eq => ⟨value, rfl, eq⟩, fun ⟨_, same, eq⟩ => Except.ok.inj same ▸ eq⟩

theorem map_eq_ok_iff {first : Except DecodeError α} {value : α → β} {result : β} :
    value <$> first = .ok result ↔ ∃ inner, first = .ok inner ∧ value inner = result := by
  cases first with
  | error e => exact ⟨nofun, fun ⟨_, absurd, _⟩ => nomatch absurd⟩
  | ok inner =>
    exact ⟨fun eq => ⟨inner, rfl, Except.ok.inj eq⟩, fun ⟨_, rfl, eq⟩ => congrArg Except.ok eq⟩

theorem Yields.imp {holds also : α → Prop} (yields : codec.Yields holds)
    (imp : ∀ value, holds value → also value) : codec.Yields also :=
  fun written value read => imp value (yields written value read)

theorem yields_of_forall {holds : α → Prop} (all : ∀ value, holds value) : codec.Yields holds :=
  fun _ value _ => all value

/-- As it is written is one spelling of a value. -/
theorem Steady.stable (steady : codec.Steady) : codec.Stable :=
  fun written value read => (steady written value read).read _ (Json.spells_ofJson _)

/-! ### Texts, truth values and names -/

@[simp] theorem rereads_text (value : String) : text.Rereads value where
  distinct := trivial
  read source spelled := by rw [Json.spells_str_iff.1 spelled]; rfl

@[simp] theorem rereads_textOrNull (value : String) : textOrNull.Rereads value where
  distinct := trivial
  read source spelled := by rw [Json.spells_str_iff.1 spelled]; rfl

@[simp] theorem rereads_flag (value : Bool) : flag.Rereads value where
  distinct := trivial
  read source spelled := by rw [Json.spells_bool_iff.1 spelled]; rfl

/-- A name is reread if its tag names it. -/
theorem rereads_named {ofTag : String → α} {tag : α → String} {value : α}
    (again : ofTag (tag value) = value) : (named ofTag tag).Rereads value where
  distinct := trivial
  read source spelled := by
    rw [Json.spells_str_iff.1 spelled]
    exact congrArg Except.ok again

@[simp] theorem steady_text : text.Steady := yields_of_forall rereads_text

@[simp] theorem steady_textOrNull : textOrNull.Steady := yields_of_forall rereads_textOrNull

@[simp] theorem steady_flag : flag.Steady := yields_of_forall rereads_flag

/-- Names are read from tags, and each has a tag of its own that it is written with. -/
theorem steady_named {ofTag : String → α} {tag : α → String}
    (again : ∀ text, ofTag (tag (ofTag text)) = ofTag text) : (named ofTag tag).Steady := by
  intro written value read
  cases written with
  | str text =>
    cases read
    exact rereads_named (again text)
  | _ => cases read

@[simp] theorem solid_text : text.Solid := nofun

@[simp] theorem solid_named (ofTag : String → α) (tag : α → String) :
    (named ofTag tag).Solid := nofun

/-! ### Free values -/

theorem rereads_value {value : Json} (ordered : value.Ordered) : Codec.value.Rereads value where
  distinct := ordered.distinct
  read source spelled := by
    have read := Json.value?_of_spells ordered spelled
    simp only [Codec.value, read]

@[simp] theorem rereads_value_null : Codec.value.Rereads .null := rereads_value trivial

@[simp] theorem steady_value : Codec.value.Steady := by
  intro written value read
  simp only [Codec.value] at read
  split at read
  · next found there =>
    cases read
    exact rereads_value (Syntax.ordered_value? written there)
  · cases read

/-! ### Options and lists -/

@[simp] theorem rereads_option_none : codec.option.Rereads none where
  distinct := trivial
  read source spelled := by rw [Json.spells_null_iff.1 spelled]; rfl

theorem read_option_of_ne {written : Syntax} (given : written ≠ .null) :
    codec.option.read written = some <$> codec.read written := by
  cases written <;> first | rfl | exact absurd rfl given

theorem rereads_option_some (solid : codec.Solid) {value : α} (rereads : codec.Rereads value) :
    codec.option.Rereads (some value) where
  distinct := rereads.distinct
  read source spelled := by
    have given : source ≠ .null := by
      rintro rfl
      have spelled : (codec.write value).Spells .null := spelled
      refine absurd ?_ (solid value)
      cases written : codec.write value <;> rw [written] at spelled <;>
        first | rfl | cases spelled
    rw [read_option_of_ne given, rereads.read source spelled]
    rfl

theorem yields_option {holds : α → Prop} (yields : codec.Yields holds) :
    codec.option.Yields fun value? => ∀ value ∈ value?, holds value := by
  rintro written _ read value ⟨⟩
  by_cases given : written = .null
  · rw [given] at read
    cases read
  · rw [read_option_of_ne given] at read
    obtain ⟨inner, there, eq⟩ := map_eq_ok_iff.1 read
    cases eq
    exact yields _ _ there

@[simp] theorem steady_option (solid : codec.Solid) (steady : codec.Steady) :
    codec.option.Steady := by
  refine (yields_option steady).imp fun value? inner => ?_
  cases value? with
  | none => exact rereads_option_none
  | some value => exact rereads_option_some solid (inner value rfl)

theorem readItems_eq_ok {values : List α} {texts : List Syntax}
    (read : List.Forall₂ (fun value text => codec.read text = .ok value) values texts) :
    codec.readItems texts = .ok values := by
  induction read with
  | nil => rfl
  | cons here _ ih =>
    rw [readItems, here, ih]
    rfl

theorem rereads_list {values : List α} (each : ∀ value ∈ values, codec.Rereads value) :
    codec.list.Rereads values where
  distinct := by
    refine Json.distinctItems_iff.2 fun item mem => ?_
    obtain ⟨value, there, rfl⟩ := List.mem_map.1 mem
    exact (each value there).distinct
  read source spelled := by
    obtain ⟨texts, rfl, items⟩ := Json.spells_arr_iff.1 spelled
    rw [List.forall₂_map_left_iff] at items
    refine readItems_eq_ok ?_
    clear spelled
    induction items with
    | nil => exact .nil
    | cons here _ ih =>
      obtain ⟨first, each⟩ := List.forall_mem_cons.1 each
      exact .cons (first.read _ here) (ih each)

theorem yields_list {holds : α → Prop} (yields : codec.Yields holds) :
    codec.list.Yields fun values => ∀ value ∈ values, holds value := by
  intro written values read
  cases written with
  | arr items =>
    have inner : codec.readItems items = .ok values := read
    clear read
    induction items generalizing values with
    | nil =>
      cases inner
      exact nofun
    | cons item items ih =>
      obtain ⟨first, here, inner⟩ := bind_eq_ok_iff.1 inner
      obtain ⟨rest, later, eq⟩ := bind_eq_ok_iff.1 inner
      cases eq
      exact List.forall_mem_cons.2 ⟨yields item first here, ih rest later⟩
  | _ => cases read

@[simp] theorem steady_list (steady : codec.Steady) : codec.list.Steady :=
  (yields_list steady).imp fun _ => rereads_list

@[simp] theorem solid_list : codec.list.Solid := nofun

@[simp] theorem rereads_list_nil : codec.list.Rereads [] := rereads_list nofun

end Codec

/-- Both shapes are written as their names. -/
@[simp] theorem RepeatKind.steady_codec : RepeatKind.codec.Steady := by
  refine Codec.yields_of_forall fun kind => ⟨trivial, fun text spelled => ?_⟩
  rw [Json.spells_str_iff.1 spelled]
  cases kind <;> rfl

@[simp] theorem RepeatKind.solid_codec : RepeatKind.codec.Solid := nofun

end CaseForm

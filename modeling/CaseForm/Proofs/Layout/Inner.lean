import CaseForm.Proofs.Codec.Agreement
import CaseForm.Proofs.Layout.Alike
import CaseForm.Proofs.Layout.Components

/-!
The groups that lie directly in a group.

A codec of groups goes over into codecs of rows, views and layouts of groups, and from there into a
codec of the groups around them (`Group.codecOver`). Everything here says of one such step what it
brings from the inner groups to the outer ones: what holds of every inner group that is read
(`Group.yields_codecOver`), that groups are reread (`Group.steady_codecOver`), that two codecs read
alike (`Group.agree_codecOver`) or write alike (`Group.write_codecOver_eq`). The nesting of a
group is the nesting of its inner groups and one more (`Group.depth_le_succ_iff`).
-/

namespace CaseForm

/-! ### Inner groups -/

/-- Every group of the row has the property. -/
def Row.Each (holds : Group → Prop) (row : Row) : Prop := ∀ group ∈ row.groups, holds group

/-- Every group directly in the view has the property. -/
def View.Each (holds : Group → Prop) (view : View) : Prop := ∀ group ∈ view.groups, holds group

/-- Every group directly in the layout has the property: those of its list, its rows, its nested
view and its header. -/
def Layout.Each (holds : Group → Prop) (layout : Layout) : Prop :=
  (∀ groups ∈ layout.groups, ∀ group ∈ groups, holds group) ∧
    (∀ rows ∈ layout.rows, ∀ row ∈ rows, row.Each holds) ∧
      (∀ view ∈ layout.view, view.Each holds) ∧ ∀ row ∈ layout.header, row.Each holds

/-- Every group directly in the parts has the property. -/
def GroupParts.Each (holds : Group → Prop) (parts : GroupParts) : Prop :=
  (∀ view ∈ parts.view, view.Each holds) ∧ ∀ layout ∈ parts.layout, layout.Each holds

/-- Every group directly in the group has the property. -/
def Group.Each (holds : Group → Prop) (group : Group) : Prop :=
  (GroupParts.ofGroup group).Each holds

section Imp

variable {holds also : Group → Prop} (weaker : ∀ group, holds group → also group)

include weaker

theorem Row.Each.imp {row : Row} (each : row.Each holds) : row.Each also :=
  fun group mem => weaker group (each group mem)

theorem View.Each.imp {view : View} (each : view.Each holds) : view.Each also :=
  fun group mem => weaker group (each group mem)

theorem Layout.Each.imp {layout : Layout} (each : layout.Each holds) : layout.Each also := by
  obtain ⟨groups, rows, view, header⟩ := each
  exact ⟨fun inner there group mem => weaker group (groups inner there group mem),
    fun inner there row mem => (rows inner there row mem).imp weaker,
    fun inner there => (view inner there).imp weaker,
    fun row there => (header row there).imp weaker⟩

theorem Group.Each.imp {group : Group} (each : group.Each holds) : group.Each also :=
  ⟨fun view there => (each.1 view there).imp weaker,
    fun layout there => (each.2 layout there).imp weaker⟩

end Imp

/-! ### Nesting -/

theorem Group.depthAll_le_iff {groups : List Group} {n : Nat} :
    Group.depthAll groups ≤ n ↔ ∀ group ∈ groups, group.depth ≤ n := by
  induction groups with
  | nil => simp [Group.depthAll]
  | cons group groups ih => rw [Group.depthAll, Nat.max_le, ih, List.forall_mem_cons]

theorem Row.depthAll_le_iff {rows : List Row} {n : Nat} :
    Row.depthAll rows ≤ n ↔ ∀ row ∈ rows, row.Each (·.depth ≤ n) := by
  induction rows with
  | nil => simp [Row.depthAll]
  | cons row rows ih =>
    obtain ⟨groups⟩ := row
    rw [Row.depthAll, Nat.max_le, ih, List.forall_mem_cons, Group.depthAll_le_iff]
    rfl

theorem Group.depthSome_le_iff {groups : Option (List Group)} {n : Nat} :
    Group.depthSome groups ≤ n ↔ ∀ inner ∈ groups, ∀ group ∈ inner, group.depth ≤ n := by
  cases groups <;> simp [Group.depthSome, Group.depthAll_le_iff]

theorem Row.depthSome_le_iff {rows : Option (List Row)} {n : Nat} :
    Row.depthSome rows ≤ n ↔ ∀ inner ∈ rows, ∀ row ∈ inner, row.Each (·.depth ≤ n) := by
  cases rows <;> simp [Row.depthSome, Row.depthAll_le_iff]

theorem Row.depthOne_le_iff {header : Option Row} {n : Nat} :
    Row.depthOne header ≤ n ↔ ∀ row ∈ header, row.Each (·.depth ≤ n) := by
  match header with
  | none => simp [Row.depthOne]
  | some ⟨groups⟩ => simp [Row.depthOne, Row.Each, Group.depthAll_le_iff]

theorem View.depth_le_iff {view : View} {n : Nat} :
    view.depth ≤ n ↔ view.Each (·.depth ≤ n) := Group.depthAll_le_iff

theorem View.depthSome_le_iff {view : Option View} {n : Nat} :
    View.depthSome view ≤ n ↔ ∀ inner ∈ view, inner.Each (·.depth ≤ n) := by
  match view with
  | none => simp [View.depthSome]
  | some ⟨name, visible, groups, page⟩ =>
    simp [View.depthSome, View.Each, Group.depthAll_le_iff]

theorem Layout.depth_le_iff {layout : Layout} {n : Nat} :
    layout.depth ≤ n ↔ layout.Each (·.depth ≤ n) := by
  simp only [Layout.depth, Nat.max_le, Group.depthSome_le_iff, Row.depthSome_le_iff,
    View.depthSome_le_iff, Row.depthOne_le_iff, and_assoc, Layout.Each]

theorem Group.depth_layout (layout : Layout) : (Group.layout layout).depth = layout.depth + 1 := by
  obtain ⟨title, visible, format, groups, rows, view, reference, kind, header⟩ := layout
  rfl

/-- The groups directly in a group are nested less deep by one. -/
theorem Group.depth_le_succ_iff {group : Group} {n : Nat} :
    group.depth ≤ n + 1 ↔ group.Each (·.depth ≤ n) := by
  cases group with
  | view view =>
    rw [Group.depth_view, Nat.add_le_add_iff_right, View.depth_le_iff]
    simp [Group.Each, GroupParts.Each, GroupParts.ofGroup, GroupParts.none]
  | layout layout =>
    rw [Group.depth_layout, Nat.add_le_add_iff_right, Layout.depth_le_iff]
    simp [Group.Each, GroupParts.Each, GroupParts.ofGroup, GroupParts.none]
  | _ => simp [Group.depth, Group.Each, GroupParts.Each, GroupParts.ofGroup, GroupParts.none]

/-! ### One group of parts -/

/-- A group and its parts determine each other. -/
theorem GroupParts.toGroup_eq_ok_iff {parts : GroupParts} {group : Group} :
    parts.toGroup = .ok group ↔ parts = ofGroup group := by
  constructor
  · obtain ⟨view, layout, paragraph, caption, field⟩ := parts
    cases view <;> cases layout <;> cases paragraph <;> cases caption <;> cases field <;>
      rintro ⟨⟩ <;> rfl
  · rintro rfl
    cases group <;> rfl

/-! ### What is read -/

section Yields

variable {group : Codec Group} {holds : Group → Prop} (inner : group.Yields holds)

include inner

theorem Row.yields : (Row.record group).codec.Yields (Row.Each holds) := by
  refine Record.yields ?_ (List.forall_mem_nil _)
  simp only [Row.record, List.forall_mem_singleton]
  exact Slot.keeps_omitting (Codec.yields_list inner) fun _ _ given _ => given

theorem View.yields : (View.record group).codec.Yields (View.Each holds) := by
  refine Record.yields ?_ nofun
  simp only [View.record, List.forall_mem_cons]
  exact ⟨Slot.keeps_of_put fun _ _ now => now, Slot.keeps_of_put fun _ _ now => now,
    Slot.keeps_omitting (Codec.yields_list inner) fun _ _ given _ => given,
    Slot.keeps_of_put fun _ _ now => now, nofun⟩

theorem Layout.yields : (Layout.record group).codec.Yields (Layout.Each holds) := by
  have groups := Codec.yields_option (Codec.yields_list inner)
  have rows := Codec.yields_option (Codec.yields_list (Row.yields inner))
  have view := Codec.yields_option (View.yields inner)
  have header := Codec.yields_option (Row.yields inner)
  refine Record.yields ?_ ⟨nofun, nofun, nofun, nofun⟩
  simp only [Layout.record, List.forall_mem_cons]
  exact ⟨Slot.keeps_of_put fun _ _ now => now, Slot.keeps_of_put fun _ _ now => now,
    Slot.keeps_of_put fun _ _ now => now,
    Slot.keeps_omitting groups fun _ _ given now => ⟨given, now.2⟩,
    Slot.keeps_omitting rows fun _ _ given now => ⟨now.1, given, now.2.2⟩,
    Slot.keeps_omitting view fun _ _ given now => ⟨now.1, now.2.1, given, now.2.2.2⟩,
    Slot.keeps_of_put fun _ _ now => now, Slot.keeps_of_put fun _ _ now => now,
    Slot.keeps_omitting header fun _ _ given now => ⟨now.1, now.2.1, now.2.2.1, given⟩, nofun⟩

theorem GroupParts.yields : (GroupParts.record group).codec.Yields (GroupParts.Each holds) := by
  refine Record.yields ?_ ⟨nofun, nofun⟩
  simp only [GroupParts.record, List.forall_mem_cons]
  exact ⟨
    Slot.keeps_omitting (Codec.yields_option (View.yields inner)) fun _ _ given now =>
      ⟨given, now.2⟩,
    Slot.keeps_omitting (Codec.yields_option (Layout.yields inner)) fun _ _ given now =>
      ⟨now.1, given⟩,
    Slot.keeps_of_put fun _ _ now => now, Slot.keeps_of_put fun _ _ now => now,
    Slot.keeps_of_put fun _ _ now => now, nofun⟩

theorem Group.yields_codecOver : (Group.codecOver group).Yields (Group.Each holds) := by
  intro written value read
  obtain ⟨parts, there, made⟩ := Codec.bind_eq_ok_iff.1 read
  obtain rfl := GroupParts.toGroup_eq_ok_iff.1 made
  exact GroupParts.yields inner written _ there

end Yields

/-- Groups are reread if the groups in them are. -/
theorem Group.steady_codecOver {group : Codec Group} (inner : group.Steady) :
    (Group.codecOver group).Steady := by
  intro written value read
  obtain ⟨parts, there, made⟩ := Codec.bind_eq_ok_iff.1 read
  obtain rfl := GroupParts.toGroup_eq_ok_iff.1 made
  have rereads := GroupParts.steady inner written _ there
  refine ⟨rereads.distinct, fun text spelled => ?_⟩
  exact Codec.bind_eq_ok_iff.2 ⟨_, rereads.read text spelled, made⟩

/-! ### Two codecs of inner groups -/

section Two

variable {a b : Codec Group} {depth : Nat}

theorem Row.agree (agree : a.Agree depth b) :
    (Row.record a).codec.Agree (depth + 1) (Row.record b).codec :=
  Record.agree rfl (.cons (.always agree.list _ _ _) .nil)

theorem View.agree (agree : a.Agree depth b) :
    (View.record a).codec.Agree (depth + 1) (View.record b).codec :=
  Record.agree rfl (.cons (.refl _ _) (.cons (.refl _ _) (.cons (.always agree.list _ _ _)
    (.cons (.refl _ _) .nil))))

theorem Layout.agree (agree : a.Agree depth b) :
    (Layout.record a).codec.Agree (depth + 1) (Layout.record b).codec := by
  have rows := (Row.agree agree).mono (Nat.le_succ depth)
  have view := (View.agree agree).mono (Nat.le_succ depth)
  refine Record.agree rfl ?_
  simp only [Layout.record, List.forall₂_cons]
  exact ⟨.refl _ _, .refl _ _, .refl _ _, .optional agree.list _ _ _,
    .optional rows.list _ _ _, .optional view _ _ _, .refl _ _, .refl _ _,
    .optional rows _ _ _, .nil⟩

theorem GroupParts.agree (agree : a.Agree depth b) :
    (GroupParts.record a).codec.Agree (depth + 1) (GroupParts.record b).codec := by
  have view := (View.agree agree).mono (Nat.le_succ depth)
  have layout := (Layout.agree agree).mono (Nat.le_succ depth)
  refine Record.agree rfl ?_
  simp only [GroupParts.record, List.forall₂_cons]
  exact ⟨.optional view _ _ _, .optional layout _ _ _, .refl _ _, .refl _ _, .refl _ _, .nil⟩

theorem Group.agree_codecOver (agree : a.Agree depth b) :
    (Group.codecOver a).Agree (depth + 1) (Group.codecOver b) := by
  intro text deep
  simp only [Group.codecOver, GroupParts.agree agree text deep]

theorem Row.write_eq {row : Row} (each : row.Each fun group => a.write group = b.write group) :
    (Row.record a).codec.write row = (Row.record b).codec.write row :=
  Record.write_eq (.cons (.always (Codec.write_list_eq each) _ _) .nil)

theorem View.write_eq {view : View} (each : view.Each fun group => a.write group = b.write group) :
    (View.record a).codec.write view = (View.record b).codec.write view :=
  Record.write_eq (.cons (.refl _ _) (.cons (.refl _ _)
    (.cons (.always (Codec.write_list_eq each) _ _) (.cons (.refl _ _) .nil))))

theorem Layout.write_eq {layout : Layout}
    (each : layout.Each fun group => a.write group = b.write group) :
    (Layout.record a).codec.write layout = (Layout.record b).codec.write layout := by
  obtain ⟨groups, rows, view, header⟩ := each
  refine Record.write_eq ?_
  simp only [Layout.record, List.forall₂_cons]
  exact ⟨.refl _ _, .refl _ _, .refl _ _,
    .optional (fun inner mem => Codec.write_list_eq (groups inner mem)) _ _,
    .optional (fun inner mem => Codec.write_list_eq fun row there =>
      Row.write_eq (rows inner mem row there)) _ _,
    .optional (fun inner mem => View.write_eq (view inner mem)) _ _, .refl _ _, .refl _ _,
    .optional (fun row mem => Row.write_eq (header row mem)) _ _, .nil⟩

theorem Group.write_codecOver_eq {group : Group}
    (each : group.Each fun inner => a.write inner = b.write inner) :
    (Group.codecOver a).write group = (Group.codecOver b).write group := by
  obtain ⟨view, layout⟩ := each
  refine Record.write_eq ?_
  simp only [GroupParts.record, List.forall₂_cons]
  exact ⟨.optional (fun inner mem => View.write_eq (view inner mem)) _ _,
    .optional (fun inner mem => Layout.write_eq (layout inner mem)) _ _, .refl _ _, .refl _ _,
    .refl _ _, .nil⟩

end Two

end CaseForm

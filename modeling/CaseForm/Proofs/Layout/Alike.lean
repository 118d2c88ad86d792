import CaseForm.Layout.Seed
import CaseForm.Layout.ViewCodec
import CaseForm.Proofs.Json.Same

/-!
Equal views bring along equal values.

Views are equal if they are written alike. What a view brings along is found in what is written for
it, slot by slot: records that are written alike have equal values in each slot
(`Record.forall₂_of_same`), since the slots of a record have different names and a slot that is left
out of the one writing is left out of the other. From this equal groups echo equal pairs, by
induction on the stage of the codec (`Group.forall₂_echoes`), and equal views have equal seeds
(`View.same_seed`).
-/

namespace CaseForm

open Json (SameMember)

/-- Values that are both there and equal, or both absent. -/
abbrev SameOption : Option Json → Option Json → Prop := Option.Rel fun a b => a.same b = true

theorem sameOption_map_iff {α β : Type} {f : α → Json} {g : β → Json} {a : Option α}
    {b : Option β} :
    SameOption (a.map f) (b.map g) ↔ Option.Rel (fun x y => (f x).same (g y) = true) a b := by
  cases a <;> cases b <;> simp [SameOption, Option.rel_some_some]

theorem isSome_eq_of_rel {α β : Type} {r : α → β → Prop} {a : Option α} {b : Option β}
    (rel : Option.Rel r a b) : a.isSome = b.isSome := by
  cases rel <;> rfl

/-! ### Records -/

/-- The members that are written for slots, each with its name and its value, if any. -/
def writtenSlots (slots : List (String × Option Json)) : List (String × Json) :=
  slots.filterMap fun slot => slot.2.map fun json => (slot.1, json)

/-- What is written stands under the name of a slot. -/
theorem name_mem_of_writtenSlots_eq {slots : List (String × Option Json)} {member : String × Json}
    {rest : List (String × Json)} (eq : writtenSlots slots = member :: rest) :
    member.1 ∈ slots.map Prod.fst := by
  have mem : member ∈ writtenSlots slots := by rw [eq]; exact List.mem_cons_self
  obtain ⟨slot, there, eq⟩ := List.mem_filterMap.1 mem
  obtain ⟨json, -, rfl⟩ := Option.map_eq_some_iff.1 eq
  exact List.mem_map_of_mem there

/-- Slots with different names that are written alike have equal values. -/
theorem forall₂_of_writtenSlots {slots others : List (String × Option Json)}
    (names : slots.map Prod.fst = others.map Prod.fst) (distinct : (slots.map Prod.fst).Nodup)
    (same : List.Forall₂ SameMember (writtenSlots slots) (writtenSlots others)) :
    List.Forall₂ (fun slot other => SameOption slot.2 other.2) slots others := by
  induction slots generalizing others with
  | nil =>
    cases others with
    | nil => exact .nil
    | cons other others => cases names
  | cons slot slots ih =>
    obtain ⟨name, value⟩ := slot
    cases others with
    | nil => cases names
    | cons other others =>
      obtain ⟨other, held⟩ := other
      rw [List.map_cons, List.map_cons, List.cons.injEq] at names
      obtain ⟨rfl, later⟩ := names
      rw [List.map_cons, List.nodup_cons] at distinct
      obtain ⟨fresh, distinct⟩ := distinct
      -- A value on one side only would stand under the name of a later slot on the other.
      cases value with
      | none =>
        cases held with
        | none => exact .cons .none (ih later distinct same)
        | some held =>
          obtain ⟨member, rest, eq, -, first⟩ := List.forall₂_cons_right_iff.1 same
          have mem := @name_mem_of_writtenSlots_eq slots _ _ first
          rw [eq.1] at mem
          exact absurd mem fresh
      | some json =>
        cases held with
        | none =>
          obtain ⟨member, rest, eq, -, first⟩ := List.forall₂_cons_left_iff.1 same
          have mem := @name_mem_of_writtenSlots_eq others _ _ first
          rw [← eq.1, ← later] at mem
          exact absurd mem fresh
        | some held =>
          obtain ⟨here, same⟩ := List.forall₂_cons.1 same
          exact .cons (.some here.2) (ih later distinct same)

namespace Record

variable {α : Type}

theorem members_eq (record : Record α) (value : α) :
    record.members value =
      writtenSlots (record.slots.map fun slot => (slot.name, slot.member? value)) := by
  rw [members, writtenSlots, List.filterMap_map]
  rfl

/-- Records that are written alike have equal values in each slot. -/
theorem forall₂_of_same {record other : Record α} {a b : α}
    {names : List String} (same : (record.codec.write a).same (other.codec.write b) = true)
    (named : record.slots.map Slot.name = names) (also : other.slots.map Slot.name = names)
    (distinct : names.Nodup) :
    List.Forall₂ (fun slot next => SameOption (slot.member? a) (next.member? b)) record.slots
      other.slots := by
  have members : List.Forall₂ SameMember (record.members a) (other.members b) :=
    Json.sameMembers_iff.1 same
  rw [members_eq, members_eq] at members
  subst named
  have slots := forall₂_of_writtenSlots (by rw [List.map_map, List.map_map]; exact also.symm)
    (by rwa [List.map_map]) members
  rwa [List.forall₂_map_left_iff, List.forall₂_map_right_iff] at slots

end Record

namespace Slot

variable {α β : Type} (name : String) (record : α)

theorem member?_always (codec : Codec β) (get : α → β) (put : β → α → α) :
    (always name codec get put).member? record = some (codec.write (get record)) := rfl

theorem member?_optional (codec : Codec β) (get : α → Option β) (put : Option β → α → α) :
    (optional name codec get put).member? record = (get record).map codec.write := by
  simp only [optional, omitting]
  cases get record <;> rfl

end Slot

/-! ### Names of slots -/

theorem Row.slot_names (group : Codec Group) :
    (Row.record group).slots.map Slot.name = ["groups"] := rfl

theorem View.slot_names (group : Codec Group) :
    (View.record group).slots.map Slot.name = ["name", "visible", "groups", "pageID"] := rfl

theorem Layout.slot_names (group : Codec Group) :
    (Layout.record group).slots.map Slot.name =
      ["title", "visible", "groupFormat", "groups", "rows", "view", "reference", "referenceType",
        "header"] := rfl

theorem GroupParts.slot_names (group : Codec Group) :
    (GroupParts.record group).slots.map Slot.name =
      ["view", "layout", "paragraph", "caption", "field"] := rfl

/-! ### Equal views -/

/-- The pairs have equal keys and values, one by one. -/
abbrev SamePairs : List (String × Json) → List (String × Json) → Prop := List.Forall₂ SameMember

/-- Equal fields echo equal pairs. -/
theorem Field.samePairs_echo {a b : Field}
    (same : (Field.record.codec.write a).same (Field.record.codec.write b) = true) :
    SamePairs a.echo b.echo := by
  have slots := Record.forall₂_of_same same rfl rfl (by decide)
  simp only [Field.record, List.forall₂_cons, Slot.member?_always, Option.rel_some_some] at slots
  obtain ⟨reference, value, visible, -⟩ := slots
  have same_reference : a.reference = b.reference := by
    simpa [Codec.textOrNull, Json.same] using reference
  have same_visible : a.visible = b.visible := by
    simpa [Codec.flag, Json.same] using visible
  unfold Field.echo Field.isBound
  rw [same_reference, same_visible]
  split
  · exact .cons ⟨rfl, value⟩ .nil
  · exact .nil

/-- The pairs that the parts of a group echo. -/
def GroupParts.echoes (parts : GroupParts) : List (String × Json) :=
  parts.view.elim [] View.echoes ++
    parts.layout.elim [] (fun layout => (Group.layout layout).echoes) ++
    parts.field.elim [] Field.echo

theorem Group.echoes_view (view : View) : (Group.view view).echoes = view.echoes := by
  obtain ⟨name, visible, groups, pageId⟩ := view
  rfl

theorem Group.depth_view (view : View) : (Group.view view).depth = view.depth + 1 := by
  obtain ⟨name, visible, groups, pageId⟩ := view
  rfl

theorem GroupParts.echoes_ofGroup (group : Group) :
    (GroupParts.ofGroup group).echoes = group.echoes := by
  cases group with
  | view view => simp [GroupParts.echoes, GroupParts.ofGroup, GroupParts.none, Group.echoes_view]
  | layout layout => exact List.append_nil _
  | field field => exact List.nil_append _
  | _ => rfl

theorem GroupParts.eq_of_view {group : Group} {view : View}
    (there : (GroupParts.ofGroup group).view = some view) : group = .view view := by
  cases group <;> cases there
  rfl

theorem GroupParts.eq_of_layout {group : Group} {layout : Layout}
    (there : (GroupParts.ofGroup group).layout = some layout) : group = .layout layout := by
  cases group <;> cases there
  rfl

/-- Parts that are both there or both absent echo equal pairs if those that are there do. -/
theorem samePairs_elim {α : Type} {r : α → α → Prop} {a b : Option α} (rel : Option.Rel r a b)
    {echo : α → List (String × Json)}
    (equal : ∀ x y, a = some x → b = some y → r x y → SamePairs (echo x) (echo y)) :
    SamePairs (a.elim [] echo) (b.elim [] echo) := by
  cases rel with
  | some same => exact equal _ _ rfl rfl same
  | none => exact .nil

theorem Group.depth_pos (group : Group) : 0 < group.depth := by
  cases group with
  | view view =>
    obtain ⟨name, visible, groups, pageId⟩ := view
    exact Nat.succ_pos _
  | layout layout =>
    obtain ⟨title, visible, format, groups, rows, view, reference, kind, header⟩ := layout
    exact Nat.succ_pos _
  | _ => exact Nat.one_pos

/-- Two stages of the codec of groups that write echoing groups differently: groups that the stages
write alike, and that are not too deep for them, echo equal pairs. -/
def Group.Echoing (n m : Nat) : Prop :=
  ∀ g h : Group, g.depth ≤ n → h.depth ≤ m →
    ((Group.codec n).write g).same ((Group.codec m).write h) = true →
    SamePairs g.echoes h.echoes

section Stages

variable {n m : Nat} (echoing : Group.Echoing n m)

include echoing

theorem samePairs_echoesAll {groups others : List Group} (deep : Group.depthAll groups ≤ n)
    (also : Group.depthAll others ≤ m)
    (same : ((Group.codec n).list.write groups).same ((Group.codec m).list.write others) = true) :
    SamePairs (Group.echoesAll groups) (Group.echoesAll others) := by
  have items := Json.sameItems_iff.1 same
  rw [List.forall₂_map_left_iff, List.forall₂_map_right_iff] at items
  clear same
  induction items with
  | nil => exact .nil
  | cons here _ ih =>
    rw [Group.depthAll, Nat.max_le] at deep also
    rw [Group.echoesAll, Group.echoesAll]
    exact List.rel_append (echoing _ _ deep.1 also.1 here) (ih deep.2 also.2)

theorem samePairs_rows {rows others : List Row} (deep : Row.depthAll rows ≤ n)
    (also : Row.depthAll others ≤ m)
    (same : ((Row.record (Group.codec n)).codec.list.write rows).same
      ((Row.record (Group.codec m)).codec.list.write others) = true) :
    SamePairs (Row.echoesAll rows) (Row.echoesAll others) := by
  have items := Json.sameItems_iff.1 same
  rw [List.forall₂_map_left_iff, List.forall₂_map_right_iff] at items
  clear same
  induction items with
  | nil => exact .nil
  | @cons row other _ _ here _ ih =>
    obtain ⟨groups⟩ := row
    obtain ⟨held⟩ := other
    rw [Row.depthAll, Nat.max_le] at deep also
    rw [Row.echoesAll, Row.echoesAll]
    have slots := Record.forall₂_of_same here (Row.slot_names _) (Row.slot_names _) (by decide)
    simp only [Row.record, List.forall₂_cons, Slot.member?_always, Option.rel_some_some] at slots
    exact List.rel_append (samePairs_echoesAll echoing deep.1 also.1 slots.1) (ih deep.2 also.2)

/-- Views that are written alike show their groups or not alike, and their groups echo equal
pairs. -/
theorem samePairs_view {view other : View} (deep : view.depth ≤ n) (also : other.depth ≤ m)
    (same : ((View.record (Group.codec n)).codec.write view).same
      ((View.record (Group.codec m)).codec.write other) = true) :
    SamePairs view.echoes other.echoes := by
  have slots := Record.forall₂_of_same same (View.slot_names _) (View.slot_names _) (by decide)
  simp only [View.record, List.forall₂_cons, Slot.member?_always, Slot.member?_optional,
    Option.rel_some_some, sameOption_map_iff] at slots
  obtain ⟨-, visible, groups, page, -⟩ := slots
  have same_visible : view.visible = other.visible := by
    simpa [Codec.flag, Json.same] using visible
  have same_page : view.pageId.isSome = other.pageId.isSome := isSome_eq_of_rel page
  unfold View.echoes View.contributes View.isPage
  rw [same_visible, same_page]
  split
  · exact samePairs_echoesAll echoing deep also groups
  · exact .nil

/-- Layouts that are written alike echo equal pairs. -/
theorem samePairs_layout {layout other : Layout} (deep : (Group.layout layout).depth ≤ n + 1)
    (also : (Group.layout other).depth ≤ m + 1)
    (same : ((Layout.record (Group.codec n)).codec.write layout).same
      ((Layout.record (Group.codec m)).codec.write other) = true) :
    SamePairs (Group.layout layout).echoes (Group.layout other).echoes := by
  have slots := Record.forall₂_of_same same (Layout.slot_names _) (Layout.slot_names _) (by decide)
  simp only [Layout.record, List.forall₂_cons, Slot.member?_always, Slot.member?_optional,
    sameOption_map_iff] at slots
  obtain ⟨-, -, -, groups, rows, view, -⟩ := slots
  obtain ⟨title, visible, format, inner, table, nested, reference, kind, header⟩ := layout
  obtain ⟨title', visible', format', inner', table', nested', reference', kind', header'⟩ := other
  simp only [Group.depth, Nat.add_le_add_iff_right, Nat.max_le] at deep also
  obtain ⟨⟨deepGroups, deepRows⟩, deepView, -⟩ := deep
  obtain ⟨⟨alsoGroups, alsoRows⟩, alsoView, -⟩ := also
  dsimp only at groups rows view
  unfold Group.echoes
  -- Rows count before a nested view, and a nested view before groups.
  cases rows with
  | some rows => exact samePairs_rows echoing deepRows alsoRows rows
  | none =>
    cases view with
    | @some view other written =>
      obtain ⟨name, visible, inner, page⟩ := view
      obtain ⟨name', visible', inner', page'⟩ := other
      exact @samePairs_view _ _ echoing ⟨name, visible, inner, page⟩
        ⟨name', visible', inner', page'⟩ deepView alsoView written
    | none =>
      cases groups with
      | some groups => exact samePairs_echoesAll echoing deepGroups alsoGroups groups
      | none => exact .nil

/-- Groups that are written alike by the next stages echo equal pairs. -/
theorem Group.Echoing.succ : Group.Echoing (n + 1) (m + 1) := by
  intro g h deep also same
  have slots := Record.forall₂_of_same same (GroupParts.slot_names _) (GroupParts.slot_names _)
    (by decide)
  simp only [GroupParts.record, List.forall₂_cons, Slot.member?_optional, sameOption_map_iff]
    at slots
  obtain ⟨view, layout, -, -, field, -⟩ := slots
  rw [← GroupParts.echoes_ofGroup g, ← GroupParts.echoes_ofGroup h]
  refine List.rel_append (List.rel_append ?_ ?_) ?_
  · refine samePairs_elim view fun a b first second written => ?_
    obtain rfl := GroupParts.eq_of_view first
    obtain rfl := GroupParts.eq_of_view second
    rw [Group.depth_view, Nat.add_le_add_iff_right] at deep also
    exact samePairs_view echoing deep also written
  · refine samePairs_elim layout fun a b first second written => ?_
    obtain rfl := GroupParts.eq_of_layout first
    obtain rfl := GroupParts.eq_of_layout second
    exact samePairs_layout echoing deep also written
  · exact samePairs_elim field fun a b _ _ same => Field.samePairs_echo same

end Stages

/-- Groups that are written alike echo equal pairs, whatever the stages that they need. -/
theorem Group.echoing (n m : Nat) : Group.Echoing n m := by
  induction n generalizing m with
  | zero =>
    intro g h deep
    exact absurd g.depth_pos (Nat.not_lt_of_le deep)
  | succ n ih =>
    cases m with
    | zero =>
      intro g h _ also
      exact absurd h.depth_pos (Nat.not_lt_of_le also)
    | succ m => exact (ih m).succ

/-- Equal views bring along equal values. -/
theorem View.same_seed {a b : View} (same : a.same b = true) : a.seed.Same b.seed :=
  (Table.Same.refl .empty).extend
    (samePairs_view (Group.echoing _ _) (Nat.le_refl _) (Nat.le_refl _) same)

theorem View.same_refl (view : View) : view.same view = true := Json.same_refl _

theorem View.same_trans {a b c : View} (first : a.same b = true) (second : b.same c = true) :
    a.same c = true := Json.same_trans first second

end CaseForm

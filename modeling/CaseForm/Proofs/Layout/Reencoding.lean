import CaseForm.Proofs.Layout.Inner

/-!
Layout documents are stable under re-encoding.

Whatever a view was read from, writing it and reading the result gives the view again
(`view_reread`), in the order in which it is written and in key order. A text is read by as many
stages of the codec of groups as it is deep, and a view is written by as many as it is deep, so the
two need not meet in one stage. They do in the greatest of all three: every stage rereads what it
reads, nothing that a stage reads is deeper than the stage, and stages that are deep enough read and
write alike (`Codec.Staged`). For groups this is shown stage by stage; rows, views and layouts have
it from their groups.
-/

namespace CaseForm

/-! ### Stages -/

namespace Codec

variable {α : Type} {codec : Nat → Codec α} {depth : α → Nat}

/-- The codecs are the stages of one codec, and each is deep enough for the texts and the values up
to a depth. -/
structure Staged (codec : Nat → Codec α) (depth : α → Nat) : Prop where
  steady : ∀ n, (codec n).Steady
  yields : ∀ n, (codec n).Yields fun value => depth value ≤ n
  agree : ∀ {n m less}, less ≤ n → less ≤ m → (codec n).Agree less (codec m)
  write_eq : ∀ {n m value}, depth value ≤ n → depth value ≤ m →
    (codec n).write value = (codec m).write value

/-- With as many stages as are needed on either side, a codec rereads what it reads. -/
theorem Staged.steady_any (staged : Staged codec depth) :
    Steady ⟨readStaged codec, fun value => (codec (depth value)).write value⟩ := by
  intro written value read
  change (codec written.depth).read written = .ok value at read
  have deep : depth value ≤ written.depth := staged.yields _ written value read
  have same (n : Nat) (le : written.depth ≤ n) :
      (codec (depth value)).write value = (codec n).write value :=
    staged.write_eq (Nat.le_refl _) (Nat.le_trans deep le)
  constructor
  case distinct =>
    change ((codec (depth value)).write value).Distinct
    rw [same _ (Nat.le_refl _)]
    exact (staged.steady _ written value read).distinct
  case read =>
    intro text spelled
    change (codec text.depth).read text = .ok value
    change ((codec (depth value)).write value).Spells text at spelled
    -- One stage that is deep enough for the first text, the value and the second text.
    have first := Nat.le_max_left written.depth text.depth
    have second := Nat.le_max_right written.depth text.depth
    generalize max written.depth text.depth = n at first second
    rw [staged.agree (Nat.le_refl _) first written (Nat.le_refl _)] at read
    rw [same n first] at spelled
    rw [staged.agree (Nat.le_refl _) second text (Nat.le_refl _)]
    exact (staged.steady n written value read).read text spelled

end Codec

/-! ### Groups -/

namespace Group

theorem steady_codec (n : Nat) : (Group.codec n).Steady := by
  induction n with
  | zero => nofun
  | succ n ih => exact steady_codecOver ih

/-- A stage reads groups that it can write. -/
theorem yields_depth (n : Nat) : (Group.codec n).Yields fun group => group.depth ≤ n := by
  induction n with
  | zero => nofun
  | succ n ih => exact (yields_codecOver ih).imp fun _ => depth_le_succ_iff.2

/-- A text without depth is no group at any stage. -/
theorem read_codec_of_depth_eq_zero {text : Syntax} (flat : text.depth = 0) (n : Nat) :
    (Group.codec n).read text = .error .invalid := by
  cases n with
  | zero => rfl
  | succ n =>
    cases text with
    | arr items => exact absurd flat (Nat.succ_ne_zero _)
    | obj members => exact absurd flat (Nat.succ_ne_zero _)
    | _ => rfl

/-- Stages read alike the texts that are not too deep for either. -/
theorem agree_codec {depth n m : Nat} (le : depth ≤ n) (also : depth ≤ m) :
    (Group.codec n).Agree depth (Group.codec m) := by
  -- On the depth of the texts: the first stage reads nothing, and of no depth the others neither.
  induction depth generalizing n m with
  | zero =>
    intro text deep
    have flat := Nat.le_zero.1 deep
    rw [read_codec_of_depth_eq_zero flat, read_codec_of_depth_eq_zero flat]
  | succ depth ih =>
    obtain ⟨n, rfl⟩ := Nat.exists_eq_succ_of_ne_zero (Nat.ne_zero_of_lt le)
    obtain ⟨m, rfl⟩ := Nat.exists_eq_succ_of_ne_zero (Nat.ne_zero_of_lt also)
    exact agree_codecOver (ih (Nat.le_of_succ_le_succ le) (Nat.le_of_succ_le_succ also))

/-- Stages write alike the groups that are not too deep for either. -/
theorem write_codec_eq {depth n m : Nat} (le : depth ≤ n) (also : depth ≤ m) {group : Group}
    (deep : group.depth ≤ depth) : (Group.codec n).write group = (Group.codec m).write group := by
  induction depth generalizing n m group with
  | zero => exact absurd group.depth_pos (Nat.not_lt_of_le deep)
  | succ depth ih =>
    obtain ⟨n, rfl⟩ := Nat.exists_eq_succ_of_ne_zero (Nat.ne_zero_of_lt le)
    obtain ⟨m, rfl⟩ := Nat.exists_eq_succ_of_ne_zero (Nat.ne_zero_of_lt also)
    refine write_codecOver_eq ((depth_le_succ_iff.1 deep).imp fun inner => ?_)
    exact ih (Nat.le_of_succ_le_succ le) (Nat.le_of_succ_le_succ also)

theorem staged : Codec.Staged Group.codec Group.depth where
  steady := steady_codec
  yields := yields_depth
  agree := agree_codec
  write_eq le also := write_codec_eq le also (Nat.le_refl _)

end Group

/-! ### Rows, views and layouts -/

namespace Row

theorem depth_le_iff {row : Row} {n : Nat} :
    Group.depthAll row.groups ≤ n ↔ row.Each fun group => group.depth ≤ n :=
  Group.depthAll_le_iff

theorem staged :
    Codec.Staged (fun n => (Row.record (Group.codec n)).codec)
      (fun row => Group.depthAll row.groups) where
  steady n := Row.steady (Group.steady_codec n)
  yields n := (Row.yields (Group.yields_depth n)).imp fun _ => depth_le_iff.2
  agree le also := (Row.agree (Group.agree_codec le also)).mono (Nat.le_succ _)
  write_eq le also :=
    Row.write_eq ((depth_le_iff.1 (Nat.le_refl _)).imp fun _ => Group.write_codec_eq le also)

end Row

namespace View

theorem staged : Codec.Staged View.codec View.depth where
  steady n := View.steady (Group.steady_codec n)
  yields n := (View.yields (Group.yields_depth n)).imp fun _ => depth_le_iff.2
  agree le also := (View.agree (Group.agree_codec le also)).mono (Nat.le_succ _)
  write_eq le also :=
    View.write_eq ((depth_le_iff.1 (Nat.le_refl _)).imp fun _ => Group.write_codec_eq le also)

end View

namespace Layout

theorem staged :
    Codec.Staged (fun n => (Layout.record (Group.codec n)).codec) Layout.depth where
  steady n := Layout.steady (Group.steady_codec n)
  yields n := (Layout.yields (Group.yields_depth n)).imp fun _ => depth_le_iff.2
  agree le also := (Layout.agree (Group.agree_codec le also)).mono (Nat.le_succ _)
  write_eq le also :=
    Layout.write_eq ((depth_le_iff.1 (Nat.le_refl _)).imp fun _ => Group.write_codec_eq le also)

end Layout

theorem Group.steady_anyDepth : Group.anyDepth.Steady := Group.staged.steady_any

theorem Row.steady_anyDepth : Row.anyDepth.Steady := Row.staged.steady_any

theorem Layout.steady_anyDepth : Layout.anyDepth.Steady := Layout.staged.steady_any

theorem View.steady_anyDepth : View.anyDepth.Steady := View.staged.steady_any

/-- A view is read again from what is written for it, be it as it is written or with the members of
every object in key order, whatever it was first read from. -/
theorem view_reread {written : Syntax} {view : View} (read : View.read written = .ok view) :
    View.read (.ofJson view.write) = .ok view ∧
      ∃ tree, (Syntax.ofJson view.write).value? = some tree ∧
        View.read (.ofJson tree) = .ok view := by
  refine ⟨View.steady_anyDepth.stable written view read, ?_⟩
  have rereads := View.steady_anyDepth written view read
  refine ⟨view.write.arrange, Json.value?_ofJson view.write, ?_⟩
  exact rereads.read _ (Json.spells_arrange rereads.distinct)

/-- A text of a view with a key that no view has, members that are `null` or not given, a layout and
a row that are arrays, a tag that names nothing, and a tag that is not the one written. -/
def untidyText : Syntax :=
  .obj [(some "pageID", .null), (some "version", .num (.int 3)), (some "groups", .arr [
    .obj [(some "layout", .arr [.null, .bool false, .str "Mosaic", .null, .arr [.arr [.arr [
      .obj [(some "field", .obj [(some "label", .null), (some "reference", .str "City"),
        (some "control", .obj [(some "type", .str ""), (some "actionSets", .arr [
          .obj [(some "actions", .arr [.obj [(some "action", .str "performAction")]])]])])])]]]]])],
    .obj [(some "caption", .null)]])]

/-- The view that the text is read as. -/
def untidyView : View :=
  let field := { Field.record.blank with
    reference := "City"
    control := ⟨.subscript, .null, [], [⟨[⟨.performAction, .blank⟩], []⟩]⟩ }
  let layout := { (default : Layout) with
    visible := false
    format := .unrecognized "Mosaic"
    rows := some [⟨[.field field]⟩] }
  { (default : View) with groups := [.layout layout, .unsupported] }

theorem untidy_view_reread :
    View.read untidyText = .ok untidyView ∧
      View.read (.ofJson untidyView.write) = .ok untidyView ∧
        ∃ tree, (Syntax.ofJson untidyView.write).value? = some tree ∧
          View.read (.ofJson tree) = .ok untidyView :=
  have read : View.read untidyText = .ok untidyView := by rfl
  ⟨read, view_reread read⟩

end CaseForm

import CaseForm.Proofs.Document.Container
import CaseForm.Proofs.Document.RoundTrip
import CaseForm.Proofs.Reference.Position

/-!
How long lists become.

A write fills lists up to the positions that its reference names, and these are bounded by the
addressing. So no list becomes longer than it was and than the bound, but for the lists that the
written value itself brings along (`Path.lengthAt_put_le`). Together with how a decimal subscript is
read, that is what a bound on positions is good for (`decimal_subscript`).
-/

namespace CaseForm

namespace Json

/-- The number of items of the array at an address; there are none where no array stands. -/
def lengthAt (value : Json) (address : Address) : Nat :=
  ((value.get? address).getD .null).items.length

variable {value : Json} {address : Address} {n : Nat}

/-- An array is as long as it has items. -/
theorem lengthAt_le_iff :
    value.lengthAt address ≤ n ↔ value.get? (address ++ [.item n]) = none := by
  rw [lengthAt, get?_append]
  cases value.get? address with
  | none => simp [items]
  | some found =>
    rw [Option.getD_some, Option.bind_some, get?_cons, ← Stride.getElem?_items,
      ← List.getElem?_eq_none_iff]
    cases found.items[n]? <;> simp

theorem lengthAt_empty (kind : RepeatKind) (address : Address) :
    (Repeated.empty kind).toJson.lengthAt address = 0 := by
  cases address with
  | nil => cases kind <;> rfl
  | cons key rest => cases kind <;> cases key <;> rfl

end Json

namespace Path

variable {path : Path} {value old new : Json} {limit : Nat}

/-- The items on the way of a path are positions in its reference. -/
theorem index_lt_of_address (bounded : ∀ name index, .listItem name index ∈ path.segments →
    index < limit) {list rest : Address} {index : Nat}
    (eq : path.address = list ++ .item index :: rest) : index < limit := by
  obtain ⟨before, name, after, split, -⟩ := Segment.exists_listItem_of_keys_eq eq
  exact bounded name index (by rw [split]; simp)

/-- A write makes no array longer than it was and than the positions on its way ask for. The arrays
inside of the value that is written are as long as they come. -/
theorem lengthAt_put_le (written : path.put value old = some new)
    (bounded : ∀ name index, .listItem name index ∈ path.segments → index < limit)
    (address : Address) :
    new.lengthAt address ≤ max (old.lengthAt address) limit ∨
      ∃ below, address = path.address ++ below ∧ new.lengthAt address = value.lengthAt below := by
  rw [Classical.or_iff_not_imp_left, Json.lengthAt_le_iff, ← ne_eq, Option.ne_none_iff_exists']
  rintro ⟨found, there⟩
  have fresh : old.get? (address ++ [.item (max (old.lengthAt address) limit)]) = none :=
    Json.lengthAt_le_iff.1 (Nat.le_max_left _ _)
  have beyond : limit ≤ max (old.lengthAt address) limit := Nat.le_max_right _ _
  generalize max (old.lengthAt address) limit = n at there fresh beyond
  -- The item at `n` is new. It lies before, at, below or beside the address of the write.
  by_cases before : address ++ [.item n] <+: path.address
  · obtain ⟨rest, eq⟩ := before
    have lower := index_lt_of_address bounded (by rw [← eq, List.append_assoc]; rfl)
    omega
  by_cases within : path.address <+: address ++ [.item n]
  · rcases List.prefix_concat_iff.1 within with same | ⟨below, rfl⟩
    · exact absurd (same ▸ List.prefix_rfl) before
    refine ⟨below, rfl, ?_⟩
    cases filled : Document.occupied ((old.get? path.address).getD .null) with
    | false => rw [Json.lengthAt, get?_put_self written, Document.overwrite_of_free value filled,
        Json.lengthAt]
    | true =>
      rw [List.append_assoc, get?_put_self written, Document.overwrite, if_pos filled] at there
      rw [List.append_assoc, Json.get?_append] at fresh
      cases held : old.get? path.address with
      | none =>
        rw [held] at filled
        cases filled
      | some container =>
        rw [held, Option.getD_some] at there
        rw [held, Option.bind_some, there] at fresh
        cases fresh
  by_cases loses : path.Loses (address ++ [.item n])
  · rw [get?_put_of_loses written loses] at there
    cases there
  · rw [get?_put_of_apart written before within loses, fresh, Option.none_or] at there
    obtain ⟨list, index, other, rest, eq, same, lower, -⟩ := Address.eq_of_fills there
    have upper := index_lt_of_address bounded eq
    cases (List.append_inj' same rfl).2
    omega

end Path

namespace Addressing

variable {addressing : Addressing} {reference : String} {path : Path} {document next : Json}

/-- What is read names no position above the highest. -/
theorem index_lt_of_parse (read : addressing.parse reference = .ok path) (name : String)
    (index : Nat) (mem : .listItem name index ∈ path.segments) :
    index < addressing.maxListIndex := by
  obtain ⟨-, -, within⟩ := parse_eq_ok_iff.1 read
  have bounded := within _ mem
  simpa [exceeds] using bounded

/-- To locate a repeating structure is to write an empty one. -/
theorem exists_put_of_locate {kind : RepeatKind} {held : Repeated}
    (located : addressing.locate reference kind document = (next, .ok held)) :
    ∃ path, addressing.parse reference = .ok path ∧
      path.put (Repeated.empty kind).toJson document = some next := by
  obtain ⟨containers, name, found, held, parsed, ends, finds, rfl, rfl⟩ := edit_eq_ok_iff.1 located
  refine ⟨_, parsed, ?_⟩
  rw [Document.put_of_focus ends, Document.overwrite_empty finds]

/-- No write makes an array longer than it was and than the bound, but for those it brings along. -/
theorem lengthAt_write_le {value : Json}
    (written : addressing.write reference value document = (next, .ok ())) (address : Address) :
    next.lengthAt address ≤ max (document.lengthAt address) addressing.maxListIndex ∨
      ∃ path below, addressing.parse reference = .ok path ∧ address = path.address ++ below ∧
        next.lengthAt address = value.lengthAt below := by
  obtain ⟨path, read, put⟩ := (addressing.write_eq_ok_iff ..).1 written
  refine (Path.lengthAt_put_le put (index_lt_of_parse read) address).imp_right ?_
  rintro ⟨below, eq, same⟩
  exact ⟨path, below, read, eq, same⟩

/-- To locate a repeating structure makes no array longer than it was and than the bound. -/
theorem lengthAt_locate_le {kind : RepeatKind} {held : Repeated}
    (located : addressing.locate reference kind document = (next, .ok held)) (address : Address) :
    next.lengthAt address ≤ max (document.lengthAt address) addressing.maxListIndex := by
  obtain ⟨path, read, put⟩ := exists_put_of_locate located
  rcases Path.lengthAt_put_le put (index_lt_of_parse read) address with short | ⟨below, -, same⟩
  · exact short
  · rw [same, Json.lengthAt_empty]
    exact Nat.zero_le _

end Addressing

/-- How decimal subscripts are read, where the marker of the root page has no parentheses. Let a
reference have a part that is a name with a decimal subscript, and let its other parts be sound. If
the number is not above the greatest that a sign and 64 bits can hold, the part is read as the
position that it denotes if that is above zero and not above the bound, and otherwise the reference
is refused for its index. A greater number is not seen to be one, and is read as the key of a group.
A reference that is refused leaves every document as it was, and no write and no search for a
repeating structure makes an array longer than it was and than the bound; arrays that are part of
the written value are as long as they come. -/
theorem decimal_subscript (addressing : Addressing)
    (plain : '(' ∉ addressing.rootPage.toList) :
    (∀ name digits number, Segment.Numbered name digits number →
      ∀ reference part, part = Segment.bracketed name digits → part ∈ referenceParts reference →
        (∀ other ∈ addressing.parts reference, other ≠ part → addressing.Sound reference other) →
        (number ≤ 0x7fffffffffffffff →
          (1 ≤ number ∧ number ≤ addressing.maxListIndex →
            addressing.ReadsPart reference part (.listItem name (number - 1))) ∧
          (¬ (1 ≤ number ∧ number ≤ addressing.maxListIndex) →
            ∃ segment, addressing.parse reference = .error (.invalidIndex reference segment))) ∧
        (0x7fffffffffffffff < number →
          addressing.ReadsPart reference part (.groupEntry name digits))) ∧
    (∀ reference e, addressing.parse reference = .error e → ∀ document,
      (∀ value, addressing.write reference value document = (document, .error e)) ∧
      ∀ kind, addressing.locate reference kind document = (document, .error e)) ∧
    ∀ reference document next address,
      (∀ value, addressing.write reference value document = (next, .ok ()) →
        next.lengthAt address ≤ max (document.lengthAt address) addressing.maxListIndex ∨
          ∃ path below, addressing.parse reference = .ok path ∧ address = path.address ++ below ∧
            next.lengthAt address = value.lengthAt below) ∧
      ∀ kind held, addressing.locate reference kind document = (next, .ok held) →
        next.lengthAt address ≤ max (document.lengthAt address) addressing.maxListIndex := by
  refine ⟨?_, fun reference e refused document => ⟨?_, ?_⟩,
    fun reference document next address => ⟨?_, ?_⟩⟩
  · rintro name digits number decimal reference _ rfl mem others
    have unmarked : Segment.bracketed name digits ≠ addressing.rootPage := by
      intro same
      exact plain (same ▸ by simp [Segment.toList_bracketed])
    have there := addressing.mem_parts mem unmarked
    refine ⟨fun small => ⟨?_, fun outside => ?_⟩, fun great => ?_⟩
    · rintro ⟨positive, low⟩
      refine Addressing.readsPart (decimal.parse_of_pos positive small) others there ?_
      rw [Addressing.exceeds, decide_eq_false_iff_not]
      omega
    · by_cases positive : 1 ≤ number
      · refine ⟨_, Addressing.parse_of_part_exceeds (decimal.parse_of_pos positive small) others
          there ?_⟩
        rw [Addressing.exceeds, decide_eq_true_eq]
        omega
      · cases Nat.eq_zero_of_not_pos positive
        exact ⟨_, Addressing.parse_of_part_error there decimal.parse_of_zero others⟩
    · exact Addressing.readsPart (decimal.parse_of_gt great) others there rfl
  · intro value
    rw [Addressing.write, refused]
  · intro kind
    rw [Addressing.locate, Addressing.edit, refused]
  · intro value written
    exact Addressing.lengthAt_write_le written address
  · intro kind held located
    exact Addressing.lengthAt_locate_le located address

/-- Zeros in front of a number do not matter, a number above the bound is refused, and a list is
filled up to the position that is written. -/
theorem decimal_subscript_bounded :
    Addressing.standard.ReadsPart "Items(007).Name" "Items(007)" (.listItem "Items" 6) ∧
      (∃ segment, Addressing.standard.parse "Items(10001).Name" =
        .error (.invalidIndex "Items(10001).Name" segment)) ∧
      ∃ next, Addressing.standard.write "Items(3)" .null (.obj []) = (next, .ok ()) ∧
        next.lengthAt [.member "Items"] = 3 ∧
        next.lengthAt [.member "Items"] ≤
          max ((Json.obj []).lengthAt [.member "Items"]) Addressing.standard.maxListIndex := by
  have sound (reference part : String)
      (parts : Addressing.standard.parts reference = [part, "Name"]) :
      ∀ other ∈ Addressing.standard.parts reference, other ≠ part →
        Addressing.standard.Sound reference other := by
    rw [parts]
    intro other mem ne
    rw [(List.mem_pair.1 mem).resolve_left ne]
    exact ⟨.page "Name", rfl, rfl⟩
  obtain ⟨reads, -, grows⟩ := decimal_subscript .standard (by decide)
  refine ⟨?_, ?_, ?_⟩
  · have decimal : Segment.Numbered "Items" "007" 7 :=
      ⟨by decide, by decide, by decide, List.all_eq_true.1 rfl, rfl⟩
    exact ((reads _ _ _ decimal "Items(007).Name" "Items(007)" rfl (by decide) (sound _ _ rfl)).1
      (by decide)).1 (by decide)
  · have decimal : Segment.Numbered "Items" "10001" 10001 :=
      ⟨by decide, by decide, by decide, List.all_eq_true.1 rfl, rfl⟩
    exact ((reads _ _ _ decimal "Items(10001).Name" "Items(10001)" rfl (by decide)
      (sound _ _ rfl)).1 (by decide)).2 (by decide)
  · have written : Addressing.standard.write "Items(3)" .null (.obj []) =
        (.obj [("Items", .arr [.null, .null, .null])], .ok ()) := rfl
    refine ⟨_, written, rfl, ((grows _ _ _ _).1 _ written).resolve_right ?_⟩
    rintro ⟨path, below, -, -, same⟩
    have empty : Json.null.lengthAt below = 0 := by
      cases below with
      | nil => rfl
      | cons key below => cases key <;> rfl
    rw [empty] at same
    cases same

/-- A number that is too great for a position is read as a key, and written as one. -/
theorem great_decimal_subscript :
    Addressing.standard.parse "Items(9223372036854775808).Name" =
        .ok ⟨[.groupEntry "Items" "9223372036854775808"], .page "Name"⟩ ∧
      Addressing.standard.write "Items(9223372036854775808).Name" (.str "x") (.obj []) =
        (.obj [("Items", .obj [("9223372036854775808", .obj [("Name", .str "x")])])], .ok ()) :=
  ⟨rfl, rfl⟩

end CaseForm

/-!
Cutting a text at a separator, and replacing a phrase.

`cut` and `join` are inverse: joining the pieces gives the text back (`join_cut`), and pieces that
hold no separator are found again (`cut_join`).
-/

namespace CaseForm.Text

/-- The pieces between the separators; always one more piece than there are separators. -/
def cut (sep : Char) : List Char → List (List Char)
  | [] => [[]]
  | c :: rest =>
    if c = sep then [] :: cut sep rest
    else match cut sep rest with
      | [] => [[c]]
      | piece :: pieces => (c :: piece) :: pieces

/-- The pieces with a separator between each two. -/
def join (sep : Char) : List (List Char) → List Char
  | [] => []
  | [piece] => piece
  | piece :: next :: pieces => piece ++ sep :: join sep (next :: pieces)

/-- Replaces the non-overlapping occurrences of `old`, found from left to right. The number says
how many characters of a replaced occurrence are still to be passed over. -/
def replaceFrom (old new : List Char) : Nat → List Char → List Char
  | _, [] => []
  | n + 1, _ :: rest => replaceFrom old new n rest
  | 0, c :: rest =>
    if old.isPrefixOf (c :: rest) then new ++ replaceFrom old new (old.length - 1) rest
    else c :: replaceFrom old new 0 rest

/-- Replaces each occurrence of the phrase `old`, which is not empty, by `new`. -/
def replace (old new text : String) : String :=
  String.ofList (replaceFrom old.toList new.toList 0 text.toList)

/-- Whether a text holds a phrase. -/
def holds (phrase text : String) : Bool := go text.toList
where
  /-- Whether the phrase begins here or later. -/
  go : List Char → Bool
    | [] => phrase.toList.isEmpty
    | c :: rest => phrase.toList.isPrefixOf (c :: rest) || go rest

theorem cut_ne_nil (sep : Char) (cs : List Char) : cut sep cs ≠ [] := by
  cases cs with
  | nil => simp [cut]
  | cons c rest =>
    simp only [cut]
    split
    · simp
    · split <;> simp

theorem join_cut (sep : Char) (cs : List Char) : join sep (cut sep cs) = cs := by
  induction cs with
  | nil => rfl
  | cons c rest ih =>
    simp only [cut]
    split
    · next h =>
      subst h
      cases hc : cut c rest with
      | nil => exact (cut_ne_nil _ _ hc).elim
      | cons piece pieces => simpa [join, hc] using ih
    · cases hc : cut sep rest with
      | nil => exact (cut_ne_nil _ _ hc).elim
      | cons piece pieces =>
        rw [hc] at ih
        cases pieces <;> simp_all [join]

theorem cut_of_not_mem {sep : Char} {cs : List Char} (h : sep ∉ cs) : cut sep cs = [cs] := by
  induction cs with
  | nil => rfl
  | cons c rest ih =>
    simp only [List.mem_cons, not_or] at h
    simp [cut, Ne.symm h.1, ih h.2]

theorem cut_append_sep {sep : Char} {piece : List Char} (h : sep ∉ piece) (rest : List Char) :
    cut sep (piece ++ sep :: rest) = piece :: cut sep rest := by
  induction piece with
  | nil => simp [cut]
  | cons c piece ih =>
    simp only [List.mem_cons, not_or] at h
    simp [cut, Ne.symm h.1, ih h.2]

theorem cut_join {sep : Char} {pieces : List (List Char)} (ne : pieces ≠ [])
    (h : ∀ piece ∈ pieces, sep ∉ piece) : cut sep (join sep pieces) = pieces := by
  induction pieces with
  | nil => exact absurd rfl ne
  | cons piece pieces ih =>
    cases pieces with
    | nil => simpa [join] using cut_of_not_mem (h piece (by simp))
    | cons next pieces =>
      rw [join, cut_append_sep (h piece (by simp)), ih (by simp) fun p hp =>
        h p (List.mem_cons_of_mem _ hp)]

theorem not_mem_of_mem_cut {sep : Char} {cs piece : List Char} (h : piece ∈ cut sep cs) :
    sep ∉ piece := by
  induction cs generalizing piece with
  | nil => simp [cut] at h; simp [h]
  | cons c rest ih =>
    simp only [cut] at h
    split at h
    · rcases List.mem_cons.1 h with rfl | h
      · simp
      · exact ih h
    · next hc =>
      cases hr : cut sep rest with
      | nil => exact (cut_ne_nil _ _ hr).elim
      | cons first pieces =>
        rw [hr] at h
        rcases List.mem_cons.1 h with rfl | h
        · have clean : sep ∉ first := ih (by simp [hr])
          simp [Ne.symm hc, clean]
        · exact ih (by simp [hr, h])

end CaseForm.Text

import ResourceApi.Text.Pieces

/-!
# Cutting what was joined

Cutting a list at a separator undoes joining two lists by it (`pieces_append_sep`), a list without the separator is one
piece (`pieces_of_notMem`), and nothing but separators is lost (`flatten_pieces`). Where empty pieces are left out, the same
holds of the pieces that stay (`splitNonEmpty_append`, `splitNonEmpty_of_notMem`, `size_splitNonEmpty_le`). The parts of a text
are known from the text alone (`Parted`, `parted_iff`), and the pieces that stay are those that are not empty
(`splitNonEmpty_eq`).
-/

namespace ResourceApi.Text

/-! ## Pieces of a list -/

section Pieces

variable {α : Type} [DecidableEq α] {sep : α}

/-- An item that is no separator goes to the front of the first piece. -/
theorem pieces_cons_of_ne {a : α} (h : a ≠ sep) (rest : List α) :
    ∃ piece more, pieces sep rest = piece :: more ∧ pieces sep (a :: rest) = (a :: piece) :: more := by
  cases cut : pieces sep rest with
  | nil => exact absurd cut (pieces_ne_nil sep rest)
  | cons piece more => exact ⟨piece, more, rfl, by simp only [pieces, if_neg h, cut]⟩

/-- A separator at the front cuts off an empty piece. -/
theorem pieces_cons_sep (rest : List α) : pieces sep (sep :: rest) = [] :: pieces sep rest := by
  simp only [pieces, if_true]

/-- Lists that are joined by a separator are cut apart again. -/
theorem pieces_append_sep (first later : List α) :
    pieces sep (first ++ sep :: later) = pieces sep first ++ pieces sep later := by
  induction first with
  | nil => exact pieces_cons_sep later
  | cons a first ih =>
    by_cases h : a = sep
    · subst h
      rw [List.cons_append, pieces_cons_sep, pieces_cons_sep, ih, List.cons_append]
    · obtain ⟨piece, more, cut, joined⟩ := pieces_cons_of_ne h first
      obtain ⟨piece', more', cut', joined'⟩ := pieces_cons_of_ne h (first ++ sep :: later)
      rw [ih, cut, List.cons_append] at cut'
      obtain ⟨rfl, rfl⟩ := List.cons.inj cut'
      rw [List.cons_append, joined', joined, List.cons_append]

/-- A list without the separator is one piece. -/
theorem pieces_of_notMem {s : List α} (h : sep ∉ s) : pieces sep s = [s] := by
  induction s with
  | nil => rfl
  | cons a s ih =>
    rw [List.mem_cons, not_or] at h
    obtain ⟨piece, more, cut, joined⟩ := pieces_cons_of_ne (Ne.symm h.1) s
    rw [ih h.2] at cut
    obtain ⟨rfl, rfl⟩ := List.cons.inj cut
    exact joined

/-- Nothing but separators is lost. -/
theorem flatten_pieces (s : List α) : (pieces sep s).flatten = s.filter (· ≠ sep) := by
  induction s with
  | nil => rfl
  | cons a s ih =>
    by_cases h : a = sep
    · subst h
      rw [pieces_cons_sep, List.flatten_cons, List.nil_append, ih, List.filter_cons_of_neg (by simp)]
    · obtain ⟨piece, more, cut, joined⟩ := pieces_cons_of_ne h s
      rw [joined, List.flatten_cons, List.cons_append, ← List.flatten_cons, ← cut, ih,
        List.filter_cons_of_pos (by simpa using h)]

/-- No piece holds a separator. -/
theorem notMem_of_mem_pieces {s piece : List α} (h : piece ∈ pieces sep s) : sep ∉ piece := by
  intro held
  have among : sep ∈ (pieces sep s).flatten := List.mem_flatten.2 ⟨piece, h, held⟩
  rw [flatten_pieces] at among
  simpa using (List.mem_filter.1 among).2

end Pieces

/-! ## Non-empty pieces of a text -/

section SplitNonEmpty

variable {sep : Char}

/-- The number of characters of some texts. -/
def size (texts : List String) : Nat :=
  (texts.flatMap String.toList).length

theorem size_nil : size [] = 0 := rfl

/-- The sizes of two lists of texts add up. -/
theorem size_append (first later : List String) : size (first ++ later) = size first + size later := by
  unfold size
  rw [List.flatMap_append, List.length_append]

theorem size_cons (text : String) (rest : List String) : size (text :: rest) = text.length + size rest := by
  unfold size
  rw [List.flatMap_cons, List.length_append, String.length_toList]

/-- No text of a list has more characters than the list. -/
theorem length_le_size {texts : List String} {text : String} (h : text ∈ texts) : text.length ≤ size texts := by
  obtain ⟨before, after, rfl⟩ := List.append_of_mem h
  rw [size_append, size_cons]
  omega

/-- Texts that are joined by a separator are cut apart again. -/
theorem splitNonEmpty_append (first later : String) :
    splitNonEmpty sep (first ++ String.singleton sep ++ later) = splitNonEmpty sep first ++ splitNonEmpty sep later := by
  have joined : (first ++ String.singleton sep ++ later).toList = first.toList ++ sep :: later.toList := by simp
  unfold splitNonEmpty
  rw [joined, pieces_append_sep, List.filter_append, List.map_append]

/-- A text that holds no separator is one piece, if it is not empty. -/
theorem splitNonEmpty_of_notMem {s : String} (h : sep ∉ s.toList) (nonempty : s ≠ "") : splitNonEmpty sep s = [s] := by
  have kept : s.toList.isEmpty = false := by simpa using nonempty
  unfold splitNonEmpty
  rw [pieces_of_notMem h, List.filter_cons_of_pos (by rw [kept]; rfl)]
  simp

/-- No separator is left in a piece. -/
theorem notMem_of_mem_splitNonEmpty {s piece : String} (h : piece ∈ splitNonEmpty sep s) : sep ∉ piece.toList := by
  obtain ⟨chars, hchars, rfl⟩ := List.mem_map.1 h
  rw [String.toList_ofList]
  exact notMem_of_mem_pieces (List.mem_filter.1 hchars).1

/-- No piece that stays is empty. -/
theorem ne_empty_of_mem_splitNonEmpty {s piece : String} (h : piece ∈ splitNonEmpty sep s) : piece ≠ "" := by
  obtain ⟨chars, hchars, rfl⟩ := List.mem_map.1 h
  have nonempty := (List.mem_filter.1 hchars).2
  intro empty
  simp_all

/-- The pieces of a text hold its characters but the separators. -/
theorem size_splitNonEmpty (s : String) : size (splitNonEmpty sep s) = (s.toList.filter (· ≠ sep)).length := by
  have read : (String.toList ∘ String.ofList) = id := funext fun chars => String.toList_ofList
  unfold size splitNonEmpty
  rw [← flatten_pieces, ← List.flatten_filter_not_isEmpty, List.flatMap_def, List.map_map, read, List.map_id]

/-- The pieces of a text are together no longer than the text. -/
theorem size_splitNonEmpty_le (s : String) : size (splitNonEmpty sep s) ≤ s.length := by
  rw [size_splitNonEmpty]
  exact List.length_filter_le _ _

/-- Only a text that holds no separator is cut without loss. -/
theorem notMem_of_le_size_splitNonEmpty {s : String} (h : s.length ≤ size (splitNonEmpty sep s)) : sep ∉ s.toList := by
  rw [size_splitNonEmpty] at h
  have all := List.length_filter_eq_length_iff.1 (Nat.le_antisymm (List.length_filter_le _ _) h)
  intro held
  simpa using all sep held

end SplitNonEmpty

/-! ## Parts of a text -/

section Parts

variable {sep : Char}

/-- A text is these parts, with a separator between each two neighbours and none within. -/
structure Parted (sep : Char) (s : String) (parts : List String) : Prop where
  some : parts ≠ []
  joined : join (String.singleton sep) parts = s
  whole : ∀ part ∈ parts, sep ∉ part.toList

theorem join_cons (between first : String) {rest : List String} (some : rest ≠ []) :
    join between (first :: rest) = first ++ between ++ join between rest := by
  cases rest with
  | nil => exact absurd rfl some
  | cons next rest => rfl

/-- A joined text holds the characters of its parts, and those that stand between. -/
theorem mem_toList_join {between : String} {parts : List String} {c : Char} (h : c ∈ (join between parts).toList) :
    c ∈ between.toList ∨ ∃ part ∈ parts, c ∈ part.toList := by
  induction parts with
  | nil => cases h
  | cons first rest ih =>
    by_cases some : rest = []
    · subst some
      exact .inr ⟨first, List.mem_cons_self, h⟩
    · rw [join_cons between first some, String.toList_append, String.toList_append, List.mem_append, List.mem_append] at h
      rcases h with (own | separator) | later
      · exact .inr ⟨first, List.mem_cons_self, own⟩
      · exact .inl separator
      · rcases ih later with separator | ⟨part, among, own⟩
        · exact .inl separator
        · exact .inr ⟨part, List.mem_cons_of_mem first among, own⟩

/-- Texts are not joined to the empty text if the first is not empty. -/
theorem join_ne_empty {between first : String} (nonempty : first ≠ "") (rest : List String) :
    join between (first :: rest) ≠ "" := by
  cases rest with
  | nil => exact nonempty
  | cons next rest =>
    intro empty
    have none := congrArg String.toList empty
    simp [join, nonempty] at none

/-- Texts that are joined by a separator are cut apart again. -/
theorem split_append (first later : String) :
    split sep (first ++ String.singleton sep ++ later) = split sep first ++ split sep later := by
  have joined : (first ++ String.singleton sep ++ later).toList = first.toList ++ sep :: later.toList := by simp
  unfold split
  rw [joined, pieces_append_sep, List.map_append]

/-- A text without the separator is one part. -/
theorem split_of_notMem {s : String} (h : sep ∉ s.toList) : split sep s = [s] := by
  unfold split
  rw [pieces_of_notMem h, List.map_cons, List.map_nil, String.ofList_toList]

/-- No separator is left in a part. -/
theorem notMem_of_mem_split {s part : String} (h : part ∈ split sep s) : sep ∉ part.toList := by
  obtain ⟨chars, hchars, rfl⟩ := List.mem_map.1 h
  rw [String.toList_ofList]
  exact notMem_of_mem_pieces hchars

/-- Even the empty text has a part. -/
theorem split_ne_nil (s : String) : split sep s ≠ [] := by
  intro none
  exact pieces_ne_nil sep s.toList (List.map_eq_nil_iff.1 none)

/-- The parts of a text give the text back when they are joined. -/
theorem join_split (s : String) : join (String.singleton sep) (split sep s) = s := by
  have back (chars : List Char) :
      join (String.singleton sep) ((pieces sep chars).map String.ofList) = String.ofList chars := by
    induction chars with
    | nil => rfl
    | cons c chars ih =>
      by_cases h : c = sep
      · subst h
        have some : (pieces c chars).map String.ofList ≠ [] := by simpa using pieces_ne_nil c chars
        rw [pieces_cons_sep, List.map_cons, join_cons _ _ some, ih, ← String.toList_inj]
        simp
      · obtain ⟨piece, more, cut, whole⟩ := pieces_cons_of_ne h chars
        rw [cut] at ih
        rw [whole, ← String.toList_inj]
        -- The character goes before the first piece, whether others follow it or not.
        cases more with
        | nil => simpa [join] using congrArg String.toList ih
        | cons next rest => simpa [join] using congrArg String.toList ih
  rw [split, back, String.ofList_toList]

/-- A text has one list of parts. -/
theorem parted_iff {s : String} {parts : List String} : Parted sep s parts ↔ split sep s = parts := by
  constructor
  · rintro ⟨some, rfl, whole⟩
    induction parts with
    | nil => exact absurd rfl some
    | cons first rest ih =>
      rw [List.forall_mem_cons] at whole
      cases rest with
      | nil => exact split_of_notMem whole.1
      | cons next rest =>
        rw [join_cons _ _ (List.cons_ne_nil next rest), split_append, split_of_notMem whole.1,
          ih (List.cons_ne_nil next rest) whole.2, List.singleton_append]
  · rintro rfl
    exact ⟨split_ne_nil s, join_split s, fun _ => notMem_of_mem_split⟩

/-- The pieces that stay are the parts that are not empty. -/
theorem splitNonEmpty_eq (s : String) : splitNonEmpty sep s = (split sep s).filter (· ≠ "") := by
  unfold splitNonEmpty split
  rw [List.filter_map]
  congr 1
  refine List.filter_congr fun piece _ => ?_
  cases piece with
  | nil => rfl
  | cons c rest => simp

/-- Where texts are joined, each of them is cut apart. -/
theorem splitNonEmpty_join (parts : List String) :
    splitNonEmpty sep (join (String.singleton sep) parts) = parts.flatMap (splitNonEmpty sep) := by
  induction parts with
  | nil => rfl
  | cons first rest ih =>
    cases rest with
    | nil => simp [join]
    | cons next rest =>
      rw [join_cons _ _ (List.cons_ne_nil next rest), splitNonEmpty_append, ih, ← List.flatMap_cons]

end Parts

end ResourceApi.Text

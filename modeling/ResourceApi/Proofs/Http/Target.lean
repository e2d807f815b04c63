import ResourceApi.Http.Target
import ResourceApi.Proofs.Text.Percent
import ResourceApi.Proofs.Text.Pieces

/-!
# Segments of paths

A path that is put together has the segments of its parts (`Path.segments_append`). A text that stands in a path as it is,
between two slashes, is read back if it holds no slash and nothing that is decoded (`Path.Verbatim`), and only then: any
other text loses characters (`Path.verbatim_of_le_size`).
-/

namespace ResourceApi

namespace Path

/-- A text that may stand in a path as it is: it is not empty, does not part into segments, and is not changed by
decoding. -/
def Verbatim (s : String) : Prop :=
  s ≠ "" ∧ '/' ∉ s.toList ∧ Percent.decode s = s

instance (s : String) : Decidable (Verbatim s) :=
  inferInstanceAs (Decidable (_ ∧ _ ∧ _))

/-- A text without the characters that have a meaning in paths and targets. -/
def Plain (s : String) : Prop :=
  s ≠ "" ∧ ∀ c ∈ s.toList, c ≠ '/' ∧ c ≠ '%' ∧ c ≠ '?' ∧ c ≠ '#'

-- The characters of the text are gone through, and not all the characters that there are.
instance (s : String) : Decidable (Plain s) :=
  @instDecidableAnd _ _ inferInstance (List.decidableBAll _ s.toList)

/-- A plain text stays as it is. -/
theorem Plain.verbatim {s : String} (h : Plain s) : Verbatim s := by
  obtain ⟨nonempty, free⟩ := h
  refine ⟨nonempty, fun held => (free '/' held).1 rfl, Percent.decode_of_notMem fun held => ?_⟩
  exact (free '%' held).2.1 rfl

/-! ## Segments -/

/-- The segments of a path are those of its parts. -/
theorem segments_append (first later : String) : segments (first ++ "/" ++ later) = segments first ++ segments later := by
  unfold segments
  rw [← List.map_append]
  exact congrArg (List.map Percent.decode) (Text.splitNonEmpty_append first later)

/-- A slash at the front says nothing. -/
theorem segments_slash_append (s : String) : segments ("/" ++ s) = segments s := by
  have joined : "/" ++ s = "" ++ "/" ++ s := by rw [String.empty_append]
  rw [joined, segments_append]
  rfl

/-- A text that holds no slash is one segment, which is decoded. -/
theorem segments_of_notMem {s : String} (whole : '/' ∉ s.toList) (nonempty : s ≠ "") :
    segments s = [Percent.decode s] := by
  rw [segments, Text.splitNonEmpty_of_notMem whole nonempty, List.map_cons, List.map_nil]

/-- What may stand in a path as it is is read back. -/
theorem segments_of_verbatim {s : String} (h : Verbatim s) : segments s = [s] := by
  obtain ⟨nonempty, whole, kept⟩ := h
  rw [segments_of_notMem whole nonempty, kept]

/-- Decoding makes no text longer, and so no list of texts. -/
theorem size_map_decode_le (texts : List String) : Text.size (texts.map Percent.decode) ≤ Text.size texts := by
  induction texts with
  | nil => exact Nat.le_refl _
  | cons text texts ih =>
    rw [List.map_cons, Text.size_cons, Text.size_cons]
    exact Nat.add_le_add (Percent.length_decode_le text) ih

/-- The segments of a path are together no longer than the path. -/
theorem size_segments_le (s : String) : Text.size (segments s) ≤ s.length :=
  Nat.le_trans (size_map_decode_le _) (Text.size_splitNonEmpty_le s)

/-- A text of which no character is lost when it is read as a path may stand there as it is, or is empty. -/
theorem verbatim_of_le_size {s : String} (h : s.length ≤ Text.size (segments s)) : s = "" ∨ Verbatim s := by
  by_cases empty : s = ""
  · exact .inl empty
  · have whole : '/' ∉ s.toList :=
      Text.notMem_of_le_size_splitNonEmpty (Nat.le_trans h (size_map_decode_le _))
    refine .inr ⟨empty, whole, ?_⟩
    have kept : s.length ≤ (Percent.decode s).length := by
      rw [segments_of_notMem whole empty, Text.size_cons, Text.size_nil, Nat.add_zero] at h
      exact h
    exact (Percent.decode_eq_or_shorter s).resolve_right (Nat.not_lt_of_le kept)

end Path

/-! ## Targets -/

/-- A path in which no question mark and no number sign ends it is a target of its own. -/
theorem Target.ofText_of_path {path : String} {rest : List Char} (rooted : path.toList = '/' :: rest)
    (free : ∀ c ∈ path.toList, c ≠ '?' ∧ c ≠ '#') : Target.ofText path = ⟨path, ""⟩ := by
  have all {p : Char → Bool} (h : ∀ c ∈ path.toList, p c = true) :
      path.toList.takeWhile p = path.toList ∧ path.toList.dropWhile p = [] := by
    have taken : (path.toList ++ []).takeWhile p = path.toList ++ [].takeWhile p := List.takeWhile_append_of_pos h
    have dropped : (path.toList ++ []).dropWhile p = [].dropWhile p := List.dropWhile_append_of_pos h
    exact ⟨by simpa using taken, by simpa using dropped⟩
  have own : afterAuthority path.toList = path.toList := by rw [rooted]; rfl
  have visible : path.toList.takeWhile (· != '#') = path.toList := (all fun c hc => by simpa using (free c hc).2).1
  obtain ⟨before, after⟩ := @all (· != '?') fun c hc => by simpa using (free c hc).1
  have some : path.toList.isEmpty = false := by rw [rooted]; rfl
  unfold ofText
  simp only [own, visible, before, after, some]
  simp

end ResourceApi

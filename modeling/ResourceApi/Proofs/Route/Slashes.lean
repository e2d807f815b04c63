import ResourceApi.Proofs.Route.Escaped

/-!
# Slashes of paths

A path is cut at its slashes before anything in it is decoded. So the segments of a path that is joined of two are those of the
two, whatever these hold, more slashes than one count as one (`Path.segments_slashes`), and a slash or a percent sign that was
escaped stays in its segment (`segments_between_slashes`).
-/

namespace ResourceApi

namespace Path

/-- Some slashes. -/
def slashes (count : Nat) : String :=
  String.ofList (List.replicate count '/')

/-- Texts with every byte escaped and slashes between them, one and as many more after each text as are given with it. As many
stand after the last, and some before the first. -/
def spaced (leading : Nat) : List (String × Nat) → String
  | [] => slashes leading
  | [(text, trailing)] => slashes leading ++ Percent.encode text ++ slashes trailing
  | (text, more) :: next :: rest => slashes leading ++ Percent.encode text ++ "/" ++ spaced more (next :: rest)

/-! ## More slashes than one -/

theorem slashes_succ (count : Nat) : slashes (count + 1) = "/" ++ slashes count := by
  rw [← String.toList_inj]
  simp [slashes, List.replicate_succ]

/-- Slashes in front of a path add no segment. -/
theorem segments_slashes_append (count : Nat) (s : String) : segments (slashes count ++ s) = segments s := by
  induction count with
  | zero => exact congrArg segments String.empty_append
  | succ count ih => rw [slashes_succ, String.append_assoc, segments_slash_append, ih]

/-- Slashes alone have no segments. -/
theorem segments_slashes (count : Nat) : segments (slashes count) = [] := by
  have alone := segments_slashes_append count ""
  rwa [String.append_empty] at alone

/-- Slashes at the end of a path add no segment. -/
theorem segments_append_slashes (s : String) (count : Nat) : segments (s ++ slashes count) = segments s := by
  cases count with
  | zero => exact congrArg segments String.append_empty
  | succ count =>
    rw [slashes_succ, ← String.append_assoc, segments_append, segments_slashes, List.append_nil]

/-! ## Segments between slashes -/

theorem ne_empty_of_mem_segments {path segment : String} (h : segment ∈ segments path) : segment ≠ "" := by
  obtain ⟨piece, among, rfl⟩ := List.mem_map.1 h
  exact Percent.decode_ne_empty (Text.ne_empty_of_mem_splitNonEmpty among)

/-- The slashes that are given more between two texts are the first of what is read after the slash that parts them. -/
theorem segments_spaced {texts : List (String × Nat)} (nonempty : ∀ p ∈ texts, p.1 ≠ "") (leading : Nat) :
    segments (spaced leading texts) = texts.map Prod.fst := by
  induction texts generalizing leading with
  | nil => exact segments_slashes leading
  | cons first rest ih =>
    obtain ⟨text, more⟩ := first
    rw [List.forall_mem_cons] at nonempty
    obtain ⟨some, nonempty⟩ := nonempty
    cases rest with
    | nil =>
      rw [spaced, segments_append_slashes, segments_slashes_append, segments_encode some]
      rfl
    | cons next rest =>
      rw [spaced, segments_append, segments_slashes_append, segments_encode some, ih nonempty]
      rfl

end Path

/-- The segments of two paths that are joined by a slash are those of the first and then those of the second. No segment of a
path is empty. And texts that are not empty, with every byte of them escaped, are the segments of every path in which they stand
between slashes, whatever they hold, and however many slashes stand before them, after them and between each two. -/
theorem segments_between_slashes :
    (∀ first later, Path.segments (first ++ "/" ++ later) = Path.segments first ++ Path.segments later) ∧
      (∀ path, ∀ segment ∈ Path.segments path, segment ≠ "") ∧
      ∀ (leading : Nat) (texts : List (String × Nat)), (∀ p ∈ texts, p.1 ≠ "") →
        Path.segments (Path.spaced leading texts) = texts.map Prod.fst :=
  ⟨Path.segments_append, fun _ _ => Path.ne_empty_of_mem_segments, fun leading _ nonempty =>
    Path.segments_spaced nonempty leading⟩

/-- Texts that look like paths and like escapes are told apart, whatever slashes stand between them. -/
theorem odd_segments_between_slashes :
    let texts := [("a/b", 2), ("100%", 0), ("%2F", 1), ("é", 3)]
    Path.spaced 1 texts = "/%61%2F%62///%31%30%30%25/%25%32%46//%C3%A9///" ∧ (∀ p ∈ texts, p.1 ≠ "") ∧
      Path.segments (Path.spaced 1 texts) = ["a/b", "100%", "%2F", "é"] := by
  intro texts
  have nonempty : ∀ p ∈ texts, p.1 ≠ "" := by decide
  exact ⟨by decide +kernel, nonempty, segments_between_slashes.2.2 1 texts nonempty⟩

end ResourceApi

import ResourceApi.Proofs.Http.Target
import ResourceApi.Proofs.Route.Paths

/-!
# Paths that lead back

The paths of entities and relations are put together from texts (`Mount.path`), and a path that is asked for is cut into
segments. What comes out are the segments of each text (`Mount.segments_path`). So the path of an entity leads back to it if
each text may stand in a path as it is and the id holds no comma, and only then (`Mount.route_element_iff`). Of the path of
a relation the one half is enough here (`Mount.route_relation`).
-/

namespace ResourceApi

namespace Mount

/-- Segments are put one after another. -/
theorem path_append (first later : List String) : path ⟨first ++ later⟩ = path ⟨first⟩ ++ path ⟨later⟩ := by
  induction first with
  | nil => exact String.empty_append.symm
  | cons segment first ih =>
    change "/" ++ segment ++ path ⟨first ++ later⟩ = "/" ++ segment ++ path ⟨first⟩ ++ path ⟨later⟩
    rw [ih, ← String.append_assoc]

theorem path_cons (segment : String) (rest : List String) : path ⟨segment :: rest⟩ = "/" ++ segment ++ path ⟨rest⟩ := rfl

theorem path_concat (first : List String) (last : String) : path ⟨first ++ [last]⟩ = path ⟨first⟩ ++ "/" ++ last := by
  have one : path ⟨[last]⟩ = "/" ++ last := String.append_empty
  rw [path_append, one, String.append_assoc]

/-- The path of an entity is put together from the segments of the mount point, the type and the id. -/
theorem path_element (m : Mount) (type id : String) :
    m.path ++ "/" ++ type ++ "/" ++ id = path ⟨m.segments ++ [type, id]⟩ := by
  rw [← path_concat, ← path_concat, List.append_assoc]
  rfl

/-- And so is the path of a relation, with the name at the end. -/
theorem path_relation (m : Mount) (type id name : String) :
    m.path ++ "/" ++ type ++ "/" ++ id ++ "/" ++ name = path ⟨m.segments ++ [type, id, name]⟩ := by
  rw [path_element, ← path_concat, List.append_assoc]
  rfl

/-- A path that is put together from texts has the segments of each. -/
theorem segments_path (parts : List String) : Path.segments (path ⟨parts⟩) = parts.flatMap Path.segments := by
  -- The induction takes the first text off, so something stands before the rest from the second text on.
  have behind (first : String) : Path.segments (first ++ path ⟨parts⟩) = Path.segments first ++ parts.flatMap Path.segments := by
    induction parts generalizing first with
    | nil =>
      have nothing : first ++ path ⟨[]⟩ = first := String.append_empty
      rw [nothing, List.flatMap_nil, List.append_nil]
    | cons segment rest ih =>
      rw [path_cons, ← String.append_assoc, ← String.append_assoc, ih, Path.segments_append, List.flatMap_cons,
        List.append_assoc]
  have whole := behind ""
  rw [String.empty_append] at whole
  exact whole

/-- Texts that may stand in a path as they are are read back from it. -/
theorem segments_path_of_verbatim {parts : List String} (h : ∀ part ∈ parts, Path.Verbatim part) :
    Path.segments (path ⟨parts⟩) = parts := by
  rw [segments_path]
  induction parts with
  | nil => rfl
  | cons part rest ih =>
    rw [List.forall_mem_cons] at h
    rw [List.flatMap_cons, Path.segments_of_verbatim h.1, ih h.2, List.singleton_append]

theorem size_flatMap_segments_le (parts : List String) : Text.size (parts.flatMap Path.segments) ≤ Text.size parts := by
  induction parts with
  | nil => exact Nat.le_refl _
  | cons part rest ih =>
    rw [List.flatMap_cons, Text.size_append, Text.size_cons]
    exact Nat.add_le_add (Path.size_segments_le part) ih

/-- If no character is lost when texts are read as paths, each of them may stand in a path as it is, or is empty. -/
theorem verbatim_of_le_size_flatMap {parts : List String}
    (h : Text.size parts ≤ Text.size (parts.flatMap Path.segments)) : ∀ part ∈ parts, part = "" ∨ Path.Verbatim part := by
  induction parts with
  | nil => exact List.forall_mem_nil _
  | cons part rest ih =>
    have first := Path.size_segments_le part
    have later := size_flatMap_segments_le rest
    rw [List.flatMap_cons, Text.size_append, Text.size_cons] at h
    exact List.forall_mem_cons.2 ⟨Path.verbatim_of_le_size (by omega), ih (by omega)⟩

/-- Texts may stand in a path as they are if the path has as many characters in segments that are not empty. -/
theorem verbatim_of_segments_path {parts segments : List String} (h : Path.segments (path ⟨parts⟩) = segments)
    (size : Text.size parts ≤ Text.size segments) : ∀ part ∈ segments, Path.Verbatim part := by
  rw [segments_path] at h
  have kept := verbatim_of_le_size_flatMap (h.symm ▸ size)
  intro segment among
  rw [← h] at among
  obtain ⟨part, hpart, among⟩ := List.mem_flatMap.1 among
  rcases kept part hpart with rfl | verbatim
  · cases among
  · rw [Path.segments_of_verbatim verbatim, List.mem_singleton] at among
    exact among ▸ verbatim

/-- A path consists of slashes and the characters of its texts. -/
theorem mem_toList_path {parts : List String} {c : Char} (h : c ∈ (path ⟨parts⟩).toList) :
    c = '/' ∨ ∃ part ∈ parts, c ∈ part.toList := by
  induction parts with
  | nil => cases h
  | cons part rest ih =>
    rw [path_cons, String.toList_append, String.toList_append, List.mem_append, List.mem_append] at h
    rcases h with (slash | own) | later
    · exact .inl (List.mem_singleton.1 slash)
    · exact .inr ⟨part, List.mem_cons_self, own⟩
    · rcases ih later with slash | ⟨other, hother, own⟩
      · exact .inl slash
      · exact .inr ⟨other, List.mem_cons_of_mem part hother, own⟩

/-- A path of plain texts is a target of its own. -/
theorem ofText_path {parts : List String} (some : parts ≠ []) (plain : ∀ part ∈ parts, Path.Plain part) :
    Target.ofText (path ⟨parts⟩) = ⟨path ⟨parts⟩, ""⟩ := by
  obtain ⟨first, rest, rfl⟩ := List.exists_cons_of_ne_nil some
  have rooted : (path ⟨first :: rest⟩).toList = '/' :: (first.toList ++ (path ⟨rest⟩).toList) := by
    rw [path_cons, String.toList_append, String.toList_append]
    rfl
  refine Target.ofText_of_path rooted fun c hc => ?_
  rcases mem_toList_path hc with rfl | ⟨part, hpart, own⟩
  · decide
  · exact ((plain part hpart).2 c own).2.2

/-! ## Routes -/

/-- An id without commas is the only id of its segment. -/
theorem idsOf_of_notMem {id : String} (single : ',' ∉ id.toList) (nonempty : id ≠ "") : idsOf id = [id] :=
  Text.splitNonEmpty_of_notMem single nonempty

variable {m : Mount} {incoming : Incoming} {type id : String}

/-- The path of an entity leads to the entity if its texts may stand in a path as they are and the id holds no comma. In
every other case it leads elsewhere or nowhere. -/
theorem route_element_iff (arrives : incoming.segments = Path.segments (path ⟨m.segments ++ [type, id]⟩)) :
    (∃ request, m.route incoming = .ok (.element, request) ∧ request.resource = type ∧ request.ids = [id]) ↔
      (∀ part ∈ m.segments ++ [type, id], Path.Verbatim part) ∧ ',' ∉ id.toList := by
  constructor
  · rintro ⟨request, routed, rfl, ids⟩
    unfold route at routed
    split at routed
    · cases routed
    · next shape resource found relation parts =>
      cases routed
      obtain ⟨rest, below, parts⟩ := Option.bind_eq_some_iff.1 parts
      rcases parts?_cases parts with ⟨other, -⟩ | ⟨segment, -, rfl, one, -⟩ | ⟨-, -, -, other, -⟩
      · cases other
      · have only : found = [id] := ids
        have among : id ∈ idsOf segment := by
          rw [← one, only]
          exact List.mem_singleton_self id
        have arrived := arrives.symm.trans (below?_eq_some_iff.1 below)
        -- The id is no longer than the segment that it is read from, so no character is lost.
        have size : Text.size (m.segments ++ [resource, id]) ≤ Text.size (m.segments ++ [resource, segment]) := by
          have shorter := Nat.le_trans (Text.length_le_size among) (Text.size_splitNonEmpty_le segment)
          simp only [Text.size_append, Text.size_cons]
          omega
        have verbatim := verbatim_of_segments_path arrived size
        rw [segments_path] at arrived
        have own := verbatim_of_le_size_flatMap (arrived.symm ▸ size) id (by simp)
        refine ⟨fun part hpart => ?_, Text.notMem_of_mem_splitNonEmpty among⟩
        rw [List.mem_append, List.mem_cons, List.mem_singleton] at hpart
        rcases hpart with above | rfl | rfl
        · exact verbatim part (List.mem_append_left _ above)
        · exact verbatim _ (by simp)
        · exact own.resolve_left (Text.ne_empty_of_mem_splitNonEmpty among)
      · cases other
  · rintro ⟨verbatim, single⟩
    have nonempty : id ≠ "" := (verbatim id (by simp)).1
    rw [segments_path_of_verbatim verbatim] at arrives
    refine ⟨_, route_eq_of_parts arrives (parts?_element ?_), rfl, ?_⟩
    · rw [idsOf_of_notMem single nonempty]
      exact List.cons_ne_nil _ _
    · exact idsOf_of_notMem single nonempty

/-- The path of a relation leads to the relation if its texts may stand in a path as they are and the id holds no
comma. -/
theorem route_relation {name : String} (arrives : incoming.segments = Path.segments (path ⟨m.segments ++ [type, id, name]⟩))
    (verbatim : ∀ part ∈ m.segments ++ [type, id, name], Path.Verbatim part) (single : ',' ∉ id.toList) :
    m.route incoming = .ok (.relation, {
      method := incoming.method, resource := type, ids := [id], relation := some name, query := incoming.query,
      headers := incoming.headers, body := incoming.body }) := by
  have nonempty : id ≠ "" := (verbatim id (by simp)).1
  rw [segments_path_of_verbatim verbatim] at arrives
  exact route_eq_of_parts arrives (parts?_relation (idsOf_of_notMem single nonempty))

end Mount

end ResourceApi

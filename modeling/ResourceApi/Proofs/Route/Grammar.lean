import ResourceApi.Proofs.Route.Paths
import ResourceApi.Proofs.Text.Pieces

/-!
# The grammar of paths

Below a mount point a path names a type, some entities of it, or a relation of one entity (`Mount.Form`). The ids are the parts
of one segment between commas, and empty parts count for nothing, neither as ids nor against the path. Routing accepts the
paths of this grammar and no others (`accepts_exactly_the_grammar`), whatever the path of the mount point itself looks like.
-/

namespace ResourceApi

namespace Mount

/-- A segment lists ids: they are its parts between commas, in their order, without the empty ones. -/
def Lists (segment : String) (ids : List String) : Prop :=
  ∃ parts, Text.Parted ',' segment parts ∧ ids = parts.filter (· ≠ "")

/-- The forms of the segments below a mount point, with the shape, the type, the ids and the relation that they name. -/
inductive Form : List String → Shape → String → List String → Option String → Prop
  /-- A type alone. -/
  | collection (type : String) : Form [type] .collection type [] none
  /-- A type with a segment that lists some ids. -/
  | element {type segment : String} {ids : List String} (lists : Lists segment ids) (some : ids ≠ []) :
    Form [type, segment] .element type ids none
  /-- A type with a segment that lists just one id, and a relation. -/
  | relation {type segment id name : String} (lists : Lists segment [id]) :
    Form [type, segment, name] .relation type [id] (some name)

/-- A request is accepted on its path: below the mount point the path has one of the forms, and all else is as it came in. -/
structure Accepts (m : Mount) (incoming : Incoming) (shape : Shape) (request : Request) : Prop where
  path : ∃ rest, incoming.segments = m.segments ++ rest ∧ Form rest shape request.resource request.ids request.relation
  method : request.method = incoming.method
  query : request.query = incoming.query
  headers : request.headers = incoming.headers
  body : request.body = incoming.body

/-! ## Lists of ids -/

/-- The ids a segment lists by the grammar are the ones it is split into. -/
theorem lists_iff {segment : String} {ids : List String} : Lists segment ids ↔ idsOf segment = ids := by
  unfold Lists idsOf
  rw [Text.splitNonEmpty_eq]
  constructor
  · rintro ⟨parts, parted, rfl⟩
    rw [Text.parted_iff.1 parted]
  · rintro rfl
    exact ⟨_, Text.parted_iff.2 rfl, rfl⟩

/-- Ids that are listed are not empty and hold no commas. -/
theorem Lists.plain {segment : String} {ids : List String} (h : Lists segment ids) :
    ∀ id ∈ ids, id ≠ "" ∧ ',' ∉ id.toList := by
  obtain ⟨parts, parted, rfl⟩ := h
  intro id among
  obtain ⟨part, nonempty⟩ := List.mem_filter.1 among
  exact ⟨of_decide_eq_true nonempty, parted.whole id part⟩

/-! ## Forms of paths -/

variable {rest : List String} {shape : Shape} {type : String} {ids : List String} {relation : Option String}

/-- The forms of the grammar are the ones the segments below a mount are recognised by. -/
theorem form_iff : Form rest shape type ids relation ↔ parts? rest = some (shape, type, ids, relation) := by
  constructor
  · intro h
    cases h with
    | collection type => rfl
    | element lists some =>
      obtain rfl := lists_iff.1 lists
      exact parts?_element some
    | relation lists => exact parts?_relation (lists_iff.1 lists)
  · intro h
    rcases parts?_cases h with ⟨rfl, rfl, rfl, rfl⟩ | ⟨segment, rfl, rfl, listed, some, rfl⟩ |
      ⟨segment, id, name, rfl, rfl, listed, rfl, rfl⟩
    · exact .collection type
    · exact .element (lists_iff.2 listed.symm) some
    · exact .relation (lists_iff.2 listed)

/-- Every id of a form is a text that is not empty and has no comma. -/
theorem Form.plain (h : Form rest shape type ids relation) : ∀ id ∈ ids, id ≠ "" ∧ ',' ∉ id.toList := by
  cases h with
  | collection => exact List.forall_mem_nil _
  | element lists some => exact lists.plain
  | relation lists => exact lists.plain

variable {m : Mount} {incoming : Incoming} {request : Request}

/-- A mount routes a request exactly where the grammar accepts it. -/
theorem route_eq_ok_iff : m.route incoming = .ok (shape, request) ↔ m.Accepts incoming shape request := by
  constructor
  · intro routed
    unfold route at routed
    split at routed
    · cases routed
    · next found =>
      obtain ⟨rest, below, parts⟩ := Option.bind_eq_some_iff.1 found
      cases routed
      exact ⟨⟨rest, below?_eq_some_iff.1 below, form_iff.2 parts⟩, rfl, rfl, rfl, rfl⟩
  · intro accepts
    obtain ⟨rest, path, form⟩ := accepts.path
    rw [route_eq_of_parts path (form_iff.1 form), ← accepts.method, ← accepts.query, ← accepts.headers, ← accepts.body]

/-- What is not routed has no route, and is told so. -/
theorem route_eq_error {reason : Refusal} (h : m.route incoming = .error reason) : reason = .noRoute incoming.segments := by
  unfold route at h
  split at h
  · exact (Except.error.inj h).symm
  · cases h

end Mount

/-- A request is routed if and only if its path is the path of the mount point, followed by a type, by a type and a segment
that lists some ids, or by a type, a segment that lists one id and a relation; and then it is routed to what these name, with
the method, the query, the header fields and the body that it came with. No id that is named is empty or holds a comma. Every
other path is not found. -/
theorem accepts_exactly_the_grammar (m : Mount) (incoming : Incoming) :
    (∀ shape request, m.route incoming = .ok (shape, request) ↔ m.Accepts incoming shape request) ∧
      (∀ shape request, m.Accepts incoming shape request → ∀ id ∈ request.ids, id ≠ "" ∧ ',' ∉ id.toList) ∧
      ((∀ shape request, ¬m.Accepts incoming shape request) →
        m.route incoming = .error (.noRoute incoming.segments) ∧
          (Refusal.noRoute incoming.segments).fault.kind = .notFound ∧
          (Refusal.noRoute incoming.segments).fault.status = .notFound) := by
  refine ⟨fun shape request => Mount.route_eq_ok_iff, ?plain, ?other⟩
  case plain =>
    intro shape request accepts
    obtain ⟨rest, -, form⟩ := accepts.path
    exact form.plain
  case other =>
    intro unaccepted
    refine ⟨?_, rfl, rfl⟩
    cases routed : m.route incoming with
    | ok found => exact absurd (Mount.route_eq_ok_iff.1 routed) (unaccepted found.1 found.2)
    | error reason => rw [Mount.route_eq_error routed]

/-- Under a path that begins as the paths of posts do, empty parts of a list of ids do not count, and an id that is listed
twice stays so. With a relation behind it the same list has no route. -/
theorem versioned_paths_accepted :
    let mount := Mount.ofText "/posts/v1/"
    let asked (path : String) : Incoming := ⟨.get, Path.segments path, .empty, .empty, []⟩
    let twice : Request := ⟨.get, "posts", ["7", "8", "7"], none, .empty, .empty, []⟩
    mount.route (asked "/posts/v1/posts/7,,8,7,") = .ok (.element, twice) ∧
      (∀ id ∈ twice.ids, id ≠ "" ∧ ',' ∉ id.toList) ∧
      mount.route (asked "/posts/v1/posts/7,,8,7,/author") =
        .error (.noRoute ["posts", "v1", "posts", "7,,8,7,", "author"]) := by
  intro mount asked twice
  obtain ⟨routes, plain, -⟩ := accepts_exactly_the_grammar mount (asked "/posts/v1/posts/7,,8,7,")
  obtain ⟨routes', -, other⟩ := accepts_exactly_the_grammar mount (asked "/posts/v1/posts/7,,8,7,/author")
  have parts : Text.Parted ',' "7,,8,7," ["7", "", "8", "7", ""] := ⟨by decide, by decide, by decide⟩
  have lists : Mount.Lists "7,,8,7," ["7", "8", "7"] := ⟨_, parts, by decide⟩
  have path : Path.segments "/posts/v1/posts/7,,8,7," = ["posts", "v1"] ++ ["posts", "7,,8,7,"] := by decide +kernel
  have path' : Path.segments "/posts/v1/posts/7,,8,7,/author" = ["posts", "v1"] ++ ["posts", "7,,8,7,", "author"] := by
    decide +kernel
  have above : mount.segments = ["posts", "v1"] := by decide +kernel
  have accepts : mount.Accepts (asked "/posts/v1/posts/7,,8,7,") .element twice :=
    ⟨⟨_, above.symm ▸ path, .element lists (by decide)⟩, rfl, rfl, rfl, rfl⟩
  have unnamed : Mount.parts? ["posts", "7,,8,7,", "author"] = none := by decide
  have lost : ∀ shape request, ¬mount.Accepts (asked "/posts/v1/posts/7,,8,7,/author") shape request := by
    rintro shape request ⟨⟨rest, below, form⟩, -⟩
    rw [above] at below
    obtain rfl := List.append_cancel_left (path'.symm.trans below)
    cases unnamed.symm.trans (Mount.form_iff.1 form)
  exact ⟨(routes _ _).2 accepts, plain _ _ accepts, (other lost).1.trans (congrArg _ (congrArg _ path'))⟩

end ResourceApi

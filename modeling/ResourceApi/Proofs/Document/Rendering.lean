import ResourceApi.Document.Report
import ResourceApi.Proofs.Registry.Table

/-!
# What rendered records hold

What a rendered record holds under a name is known from the record (`Record.get?_members`): the links, if its schema declares
relations, or else what is shown of the attribute of that name, or else the id and the type. Nothing keeps a schema from
declaring an attribute under one of these three names. Such an attribute stands in the place of the id or of the type, and the
links stand in the place of such an attribute. So records are rendered with their identity if and only if no attribute of
their schema has one of the three names (`renders_identity_iff`).
-/

namespace ResourceApi

namespace Schema

/-- The attribute of a name. -/
def attribute? (s : Schema) (name : String) : Option Field :=
  s.attributes.find? fun f => f.name == name

/-- The attributes of a schema have distinct names. -/
theorem nodup_attributes (s : Schema) : (s.attributes.map Field.name).Nodup :=
  s.distinct.sublist (List.filter_sublist.map Field.name)

/-- An attribute that is declared is found by its name. -/
theorem attribute?_of_mem {s : Schema} {field : Field} (h : field ∈ s.attributes) :
    s.attribute? field.name = some field :=
  find?_of_nodup s.nodup_attributes h

/-- Only a declared attribute of the name is found. -/
theorem of_attribute? {s : Schema} {name : String} {field : Field} (h : s.attribute? name = some field) :
    field ∈ s.attributes ∧ field.name = name := by
  have found := List.find?_some h
  exact ⟨List.mem_of_find?_eq_some h, eq_of_beq found⟩

/-- No attribute is found under a name that none of them has. -/
theorem attribute?_eq_none {s : Schema} {name : String} (h : ∀ field ∈ s.attributes, field.name ≠ name) :
    s.attribute? name = none :=
  List.find?_eq_none.2 fun field declared same => h field declared (eq_of_beq same)

end Schema

/-- What is to be shown of an attribute: its value if it is set, or else null if it may be missing. -/
def Entity.shown? (e : Entity) (field : Field) : Option Json :=
  match e.get? field.name with
  | some value => some value
  | none => if field.kind = .nullable then some .null else none

/-- A value that is set is shown. -/
theorem Entity.shown?_of_get? {e : Entity} {field : Field} {value : Json} (h : e.get? field.name = some value) :
    e.shown? field = some value := by
  unfold shown?
  rw [h]

/-- Of an attribute without a value null is shown if it may be missing, and else nothing. -/
theorem Entity.shown?_of_unset {e : Entity} {field : Field} (h : e.get? field.name = none) :
    e.shown? field = if field.kind = .nullable then some .null else none := by
  unfold shown?
  rw [h]

/-- An attribute that may be missing is always shown. -/
theorem Entity.ne_nullable_of_not_shown {e : Entity} {field : Field} (h : e.shown? field = none) :
    field.kind ≠ .nullable := by
  intro nullable
  cases set : e.get? field.name with
  | some value =>
    rw [shown?_of_get? set] at h
    cases h
  | none =>
    rw [shown?_of_unset set, if_pos nullable] at h
    cases h

namespace Record

/-- The names under which a rendered record is to hold something else than an attribute. -/
def reserved : List String :=
  ["id", "type", "links"]

/-- Some members are those of a record with its links: the id and the type of the record, its links if and only if its schema
declares relations, what is to be shown of each attribute, and nothing else. -/
structure PresentedBy (r : Record) (links : Links) (members : SortedMap Json) : Prop where
  id : members.get? "id" = some (.str r.entity.id)
  type : members.get? "type" = some (.str r.schema.typeName)
  links : members.get? "links" = if r.schema.relations = [] then none else some links.json
  attributes : ∀ field ∈ r.schema.attributes, members.get? field.name = r.entity.shown? field
  only : ∀ name, members.contains name = true → name ∈ reserved ∨ ∃ field ∈ r.schema.attributes, field.name = name

/-! ## The members of a rendered record -/

/-- The id and the type of a record under their names. -/
def identity (r : Record) : SortedMap Json :=
  (SortedMap.empty.insert "id" (.str r.entity.id)).insert "type" (.str r.schema.typeName)

/-- The members of a rendered record. -/
def members (r : Record) (links : Links) : SortedMap Json :=
  let shown := r.schema.attributes.foldl (showAttribute r.entity) r.identity
  if r.schema.relations.isEmpty then shown else shown.insert "links" links.json

variable (r : Record) (links : Links)

theorem render_eq : r.render links = .object (r.members links) := rfl

/-- The identity of a record holds its type and its id under their names, and nothing under any other. -/
theorem get?_identity (name : String) :
    r.identity.get? name =
      if name = "type" then some (.str r.schema.typeName) else if name = "id" then some (.str r.entity.id) else none := by
  unfold identity
  rw [SortedMap.get?_insert, SortedMap.get?_insert, SortedMap.get?_empty]

/-- Showing an attribute sets its own name, if there is anything to show, and no other. -/
theorem get?_showAttribute (e : Entity) (shown : SortedMap Json) (field : Field) (name : String) :
    (showAttribute e shown field).get? name =
      if name = field.name then (e.shown? field).or (shown.get? name) else shown.get? name := by
  obtain ⟨own, kind⟩ := field
  unfold showAttribute Entity.shown?
  cases e.get? own with
  | some value => exact shown.get?_insert _ _ _
  | none =>
    cases kind with
    | nullable => exact shown.get?_insert _ _ _
    | scalar | toOne | toMany => exact (ite_self _).symm

/-- Attributes with distinct names are each shown under their own name, and leave the other names as they are. -/
theorem get?_foldl_showAttribute (e : Entity) {fields : List Field} (distinct : (fields.map Field.name).Nodup)
    (shown : SortedMap Json) (name : String) :
    (fields.foldl (showAttribute e) shown).get? name =
      ((fields.find? fun f => f.name == name).bind e.shown?).or (shown.get? name) := by
  induction fields generalizing shown with
  | nil => rfl
  | cons field rest ih =>
    obtain ⟨fresh, distinct⟩ := List.nodup_cons.1 distinct
    rw [List.foldl_cons, ih distinct, get?_showAttribute]
    by_cases named : name = field.name
    · subst named
      have last : rest.find? (fun f => f.name == field.name) = none := by
        refine List.find?_eq_none.2 fun other among same => fresh ?_
        exact eq_of_beq same ▸ List.mem_map_of_mem among
      have first : (field :: rest).find? (fun f => f.name == field.name) = some field :=
        List.find?_cons_of_pos (beq_self_eq_true field.name)
      rw [first, last, if_pos rfl]
      rfl
    · rw [if_neg named, List.find?_cons_of_neg (by simpa using Ne.symm named)]

/-- What a rendered record holds under a name: the links go before the attributes, and these before the identity. -/
theorem get?_members (name : String) :
    (r.members links).get? name =
      if name = "links" ∧ r.schema.relations ≠ [] then some links.json
      else ((r.schema.attribute? name).bind r.entity.shown?).or (r.identity.get? name) := by
  have shown := get?_foldl_showAttribute r.entity r.schema.nodup_attributes r.identity name
  unfold members
  by_cases related : r.schema.relations = []
  · rw [related, if_pos List.isEmpty_nil, if_neg fun h => h.2 rfl]
    exact shown
  · rw [if_neg (by simpa using related), SortedMap.get?_insert]
    by_cases named : name = "links"
    · rw [if_pos named, if_pos ⟨named, related⟩]
    · rw [if_neg named, if_neg fun h => named h.1]
      exact shown

/-- A rendered record holds under `id` what is shown of an attribute of this name, or else its id. -/
theorem get?_members_id :
    (r.members links).get? "id" = some (((r.schema.attribute? "id").bind r.entity.shown?).getD (.str r.entity.id)) := by
  rw [get?_members, if_neg fun h => absurd h.1 (by decide), get?_identity, if_neg (by decide), if_pos rfl]
  cases (r.schema.attribute? "id").bind r.entity.shown? <;> rfl

/-- Under a name that is neither reserved nor that of an attribute, a rendered record holds nothing. -/
theorem get?_members_of_other {name : String} (unreserved : name ∉ reserved)
    (other : ∀ field ∈ r.schema.attributes, field.name ≠ name) : (r.members links).get? name = none := by
  simp only [reserved, List.mem_cons, List.not_mem_nil, or_false, not_or] at unreserved
  obtain ⟨noId, noType, noLinks⟩ := unreserved
  rw [get?_members, if_neg fun h => noLinks h.1, Schema.attribute?_eq_none other, get?_identity, if_neg noType, if_neg noId]
  rfl

/-- Where no attribute has a reserved name, a record is rendered with its identity. -/
theorem presentedBy_members (free : ∀ field ∈ r.schema.attributes, field.name ∉ reserved) :
    r.PresentedBy links (r.members links) := by
  have unshadowed {name : String} (h : name ∈ reserved) : r.schema.attribute? name = none :=
    Schema.attribute?_eq_none fun field declared same => free field declared (same ▸ h)
  constructor
  case id =>
    rw [get?_members, if_neg (by simp), unshadowed (by decide), get?_identity, if_neg (by decide), if_pos rfl]
    rfl
  case type =>
    rw [get?_members, if_neg (by simp), unshadowed (by decide), get?_identity, if_pos rfl]
    rfl
  case links =>
    by_cases related : r.schema.relations = []
    · rw [get?_members, if_neg fun h => h.2 related, if_pos related, unshadowed (by decide), get?_identity,
        if_neg (by decide), if_neg (by decide)]
      rfl
    · rw [get?_members, if_pos ⟨rfl, related⟩, if_neg related]
  case attributes =>
    intro field declared
    have unreserved := free field declared
    simp only [reserved, List.mem_cons, List.not_mem_nil, or_false, not_or] at unreserved
    obtain ⟨noId, noType, noLinks⟩ := unreserved
    rw [get?_members, if_neg fun h => noLinks h.1, Schema.attribute?_of_mem declared, get?_identity, if_neg noType,
      if_neg noId]
    exact Option.or_none
  case only =>
    intro name held
    refine Decidable.or_iff_not_imp_left.2 fun unreserved => Classical.byContradiction fun other => ?_
    have nothing := r.get?_members_of_other links unreserved fun field declared same => other ⟨field, declared, same⟩
    rw [SortedMap.contains, nothing] at held
    cases held

end Record

/-- Members are known from the object that holds them. -/
theorem Json.object_injective {a b : SortedMap Json} (h : Json.object a = .object b) : a = b :=
  SortedMap.ext (Json.obj.inj h)

/-- An attribute of a reserved name is not shown beside what the name is reserved for: where its value is null, the record is
rendered without the id, without the type, or without the attribute. -/
theorem Record.not_presentedBy_of_reserved {schema : Schema} {field : Field} (declared : field ∈ schema.attributes)
    (shadows : field.name ∈ Record.reserved) (links : Links) :
    let r : Record := ⟨schema, (Entity.bare "").set field.name .null⟩
    ¬r.PresentedBy links (r.members links) := by
  intro r presented
  have value : r.entity.shown? field = some .null := by
    unfold Entity.shown?
    rw [show r.entity.get? field.name = some .null from (SortedMap.get?_insert _ _ _ _).trans (if_pos rfl)]
  have shown := presented.attributes field declared
  rw [value] at shown
  simp only [Record.reserved, List.mem_cons, List.not_mem_nil, or_false] at shadows
  rcases shadows with named | named | named <;> rw [named] at shown
  · cases presented.id.symm.trans shown
  · cases presented.type.symm.trans shown
  · have same := presented.links.symm.trans shown
    split at same <;> cases same

/-- A rendered record holds under a name the links of the record, if it is their name and the schema declares relations; or
else what is to be shown of the attribute of the name; or else the type or the id, if it is their name. So it has the id and
the type of the record, its links if and only if the schema declares relations, what is to be shown of every attribute, and
nothing else, for every record of a schema if and only if no attribute of the schema is named `id`, `type` or `links`. Keys
and relations that are not declared as attributes too are not shown under their own names. -/
theorem renders_identity_iff (schema : Schema) :
    (∀ (entity : Entity) (links : Links), ∃ members : SortedMap Json,
        (⟨schema, entity⟩ : Record).render links = .object members ∧
        (∀ name, members.get? name =
          if name = "links" ∧ schema.relations ≠ [] then some links.json
          else ((schema.attribute? name).bind entity.shown?).or
            (if name = "type" then some (.str schema.typeName) else if name = "id" then some (.str entity.id) else none)) ∧
        ∀ name ∉ Record.reserved, (∀ field ∈ schema.attributes, field.name ≠ name) → members.get? name = none) ∧
      ((∀ (entity : Entity) (links : Links), ∃ members : SortedMap Json,
          (⟨schema, entity⟩ : Record).render links = .object members ∧
            (⟨schema, entity⟩ : Record).PresentedBy links members) ↔
        ∀ field ∈ schema.attributes, field.name ∉ Record.reserved) := by
  refine ⟨fun entity links => ?_, fun faithful field declared shadows => ?_, fun free entity links => ?_⟩
  · let r : Record := ⟨schema, entity⟩
    refine ⟨r.members links, r.render_eq links, fun name => ?_, fun name => r.get?_members_of_other links⟩
    exact (r.get?_members links name).trans (by rw [r.get?_identity])
  · obtain ⟨members, rendered, presented⟩ := faithful ((Entity.bare "").set field.name .null) SortedMap.empty
    obtain rfl := Json.object_injective ((Record.render_eq _ _).symm.trans rendered)
    exact Record.not_presentedBy_of_reserved declared shadows _ presented
  · exact ⟨_, Record.render_eq _ _, Record.presentedBy_members _ links free⟩

/-- The first post of the blog is rendered as `id`, `type` and `links`. It has no title, and the id of its author, which it keeps
under the key of the relation, is not shown. -/
theorem blog_post_identity :
    (∀ field ∈ Blog.posts.attributes, field.name ∉ Record.reserved) ∧
      ∃ members : SortedMap Json, Blog.firstPost.render SortedMap.empty = .object members ∧
        members.get? "id" = some (.str "1") ∧ members.get? "type" = some (.str "posts") ∧
        members.get? "links" = some (Links.json SortedMap.empty) ∧ members.get? "title" = none ∧
        members.get? "authorID" = none ∧ members.get? "author" = none := by
  have free : ∀ field ∈ Blog.posts.attributes, field.name ∉ Record.reserved := by decide
  obtain ⟨members, rendered, presented⟩ :=
    (renders_identity_iff Blog.posts).2.2 free (Blog.post "1" "7") SortedMap.empty
  obtain ⟨others, rendered', -, unheld⟩ := (renders_identity_iff Blog.posts).1 (Blog.post "1" "7") SortedMap.empty
  obtain rfl := Json.object_injective (rendered'.symm.trans rendered)
  refine ⟨free, others, rendered, presented.id, presented.type, presented.links, ?_, ?_, ?_⟩
  · exact presented.attributes ⟨"title", .scalar⟩ (by decide)
  · exact unheld "authorID" (by decide) (by decide)
  · exact unheld "author" (by decide) (by decide)

/-- A number under an attribute `id` is shown in the place of the id of the post, null for an attribute `type` without a value
in the place of its type, and an attribute `links` as links that the schema does not declare. -/
theorem shadowed_identities :
    let numbered : Record := ⟨(Schema.named "posts").scalar "id", (Entity.bare "1").set "id" (.num (.integer 7))⟩
    let untyped : Record := ⟨(Schema.named "posts").nullable "type", Entity.bare "1"⟩
    let linked : Record := ⟨(Schema.named "posts").scalar "links", (Entity.bare "1").set "links" (.str "home")⟩
    ∀ r ∈ [numbered, untyped, linked], ¬∃ members : SortedMap Json,
      r.render SortedMap.empty = .object members ∧ r.PresentedBy SortedMap.empty members := by
  intro numbered untyped linked r among
  rintro ⟨members, rendered, presented⟩
  obtain rfl := Json.object_injective ((r.render_eq _).symm.trans rendered)
  simp only [List.mem_cons, List.not_mem_nil, or_false] at among
  rcases among with rfl | rfl | rfl
  · have other : (numbered.members SortedMap.empty).get? "id" = some (.num (.integer 7)) := rfl
    cases other.symm.trans presented.id
  · have other : (untyped.members SortedMap.empty).get? "type" = some .null := rfl
    cases other.symm.trans presented.type
  · have other : (linked.members SortedMap.empty).get? "links" = some (.str "home") := rfl
    cases other.symm.trans presented.links

end ResourceApi

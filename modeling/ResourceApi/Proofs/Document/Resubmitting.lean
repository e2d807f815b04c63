import ResourceApi.Proofs.Document.Rendering
import ResourceApi.Proofs.Entity.Submitted

/-!
# Reading what was shown

A rendered record is an object such as clients send, so an entity can be read from it. The links are shown as objects, and the
id of a related entity is read from a text, so nothing is read from the links (`Record.submittedReference_members`). Whatever
the names of the attributes and the keys are, what is read under a name is then what the object holds under it
(`Record.get?_reread`), and so it is where the values of the entity are merged into the entity of the record
(`Record.get?_merge_reread`). In both cases the record is rendered as before (`Record.members_of_agrees`).
-/

namespace ResourceApi

/-- No link is shown as a text. -/
theorem Links.str?_of_find? {links : Links} {name : String} {shown : Json}
    (h : Entries.find? name (links.entries.map fun entry => (entry.1, entry.2.json)) = some shown) : shown.str? = none := by
  obtain ⟨entry, -, same⟩ := List.mem_map.1 (Entries.mem_of_find? h)
  cases same
  rfl

namespace Record

variable (r : Record) (links : Links)

/-- The id of a related entity is read under the key of the relation, and not from the links. -/
theorem submittedReference_members (related : r.schema.relations ≠ []) (relation key : String) :
    Entity.submittedReference (r.members links).entries relation key = ((r.members links).get? key).bind Json.str? := by
  have shown : Entries.find? "links" (r.members links).entries = some links.json :=
    (r.get?_members links "links").trans (if_pos ⟨rfl, related⟩)
  have unread : (Entries.find? relation (links.entries.map fun entry => (entry.1, entry.2.json))).bind Json.str? = none :=
    Option.bind_eq_none_iff.2 fun _ => Links.str?_of_find?
  unfold Entity.submittedReference
  simp only [shown, Option.bind_some, Links.json, Json.obj?, Option.getD_some, unread, Option.none_or]
  rfl

/-- What a field takes from a rendered record is held there under the name under which it is put. -/
theorem get?_of_taken {field : Field} (declared : field ∈ r.schema.fields) {name : String} {value : Json}
    (h : Entity.taken? (r.members links).entries field = some (name, value)) :
    (r.members links).get? name = some value := by
  obtain ⟨own, kind⟩ := field
  unfold Entity.taken? at h
  cases kind with
  | scalar | nullable =>
    obtain ⟨held, found, same⟩ := Option.map_eq_some_iff.1 h
    cases same
    exact found
  | toOne target key =>
    have related : r.schema.relations ≠ [] := List.ne_nil_of_mem (List.mem_filter.2 ⟨declared, rfl⟩)
    simp only [r.submittedReference_members links related] at h
    obtain ⟨id, found, same⟩ := Option.map_eq_some_iff.1 h
    cases same
    obtain ⟨held, found, text⟩ := Option.bind_eq_some_iff.1 found
    cases held with
    | str s =>
      cases text
      exact found
    | _ => cases text
  | toMany target => cases h

/-- A rendered record holds something under the name of every attribute that is set. -/
theorem isSome_get?_members {field : Field} (declared : field ∈ r.schema.attributes) {value : Json}
    (set : r.entity.get? field.name = some value) : ((r.members links).get? field.name).isSome = true := by
  rw [get?_members]
  split
  · rfl
  · rw [Schema.attribute?_of_mem declared, Option.bind_some, Entity.shown?_of_get? set]
    rfl

/-- Of an entity that is read from a rendered record, every attribute is what the rendered record holds under its name. -/
theorem get?_reread {reread : Entity} (h : Entity.ofMembers r.schema (r.members links).entries = .ok reread)
    {field : Field} (declared : field ∈ r.schema.attributes) :
    reread.get? field.name = (r.members links).get? field.name := by
  obtain ⟨id, -, h⟩ := Except.ok_of_bind h
  obtain rfl := Except.ok.inj h
  have own := Entity.taken?_of_attribute declared (r.members links).entries
  rcases Entity.get?_foldl_takeField (r.members links).entries r.schema.fields (.bare id) field.name with
    ⟨untaken, kept⟩ | ⟨other, among, value, taken, held⟩
  · cases found : (r.members links).get? field.name with
    | none => exact kept
    | some value =>
      rw [show Entries.find? field.name (r.members links).entries = some value from found] at own
      exact absurd own (untaken field (List.mem_filter.1 declared).1 value)
  · rw [held, r.get?_of_taken links among taken]

/-- Where no attribute is named `id`, an entity is read from a rendered record, and it has the id of the record. -/
theorem exists_reread (unshadowed : ∀ field ∈ r.schema.attributes, field.name ≠ "id") :
    ∃ reread, Entity.ofMembers r.schema (r.members links).entries = .ok reread ∧ reread.id = r.entity.id := by
  have named : Entries.find? "id" (r.members links).entries = some (.str r.entity.id) := by
    refine (r.get?_members_id links).trans ?_
    rw [Schema.attribute?_eq_none unshadowed]
    rfl
  unfold Entity.ofMembers
  rw [named]
  exact ⟨_, rfl, Entity.id_foldl_takeField _ _ _⟩

/-- The identity of a record holds its type and its id, and nothing else. -/
theorem get?_identity_eq_none_iff (name : String) : r.identity.get? name = none ↔ name ≠ "type" ∧ name ≠ "id" := by
  rw [get?_identity]
  by_cases type : name = "type"
  · simp [type]
  · by_cases id : name = "id" <;> simp [type, id]

/-- An attribute that holds what the rendered record holds under its name is shown as that. -/
theorem shown?_of_agrees {other : Entity} {field : Field}
    (held : other.get? field.name = (r.entity.shown? field).or (r.identity.get? field.name)) :
    (other.shown? field).or ((⟨r.schema, other⟩ : Record).identity.get? field.name) =
      (r.entity.shown? field).or (r.identity.get? field.name) := by
  cases both : (r.entity.shown? field).or (r.identity.get? field.name) with
  | some value =>
    rw [both] at held
    rw [Entity.shown?_of_get? held]
    rfl
  | none =>
    obtain ⟨unshown, unnamed⟩ := Option.or_eq_none_iff.1 both
    rw [both] at held
    rw [Entity.shown?_of_unset held, if_neg (Entity.ne_nullable_of_not_shown unshown), Option.none_or]
    exact (get?_identity_eq_none_iff _ _).2 ((r.get?_identity_eq_none_iff _).1 unnamed)

/-- An entity whose attributes are what a rendered record holds under their names is rendered as the record is, if it has the
id of the record or an attribute stands in its place. -/
theorem members_of_agrees {other : Entity}
    (agrees : ∀ field ∈ r.schema.attributes, other.get? field.name = (r.members links).get? field.name)
    (named : other.id = r.entity.id ∨ ∃ field ∈ r.schema.attributes, field.name = "id") (links' : Links) :
    (⟨r.schema, other⟩ : Record).members links' = r.members links' := by
  refine SortedMap.eq_of_get? fun name => ?_
  rw [get?_members, get?_members]
  by_cases linked : name = "links" ∧ r.schema.relations ≠ []
  · rw [if_pos linked, if_pos linked]
  rw [if_neg linked, if_neg linked]
  cases own : r.schema.attribute? name with
  | none =>
    have same : (if name = "id" then some (Json.str other.id) else none) =
        if name = "id" then some (.str r.entity.id) else none := by
      rcases named with same | ⟨field, declared, shadows⟩
      · rw [same]
      · have different : name ≠ "id" := by
          rintro rfl
          rw [← shadows, Schema.attribute?_of_mem declared] at own
          cases own
        rw [if_neg different, if_neg different]
    rw [get?_identity, get?_identity, same]
    rfl
  | some field =>
    obtain ⟨declared, rfl⟩ := Schema.of_attribute? own
    have held := agrees field declared
    rw [get?_members, if_neg linked, own] at held
    exact r.shown?_of_agrees held

/-- Where the values of an entity that was read from the rendered record are merged into its entity, every attribute is what
the rendered record holds under its name. -/
theorem get?_merge_reread {reread : Entity}
    (agrees : ∀ field ∈ r.schema.attributes, reread.get? field.name = (r.members links).get? field.name) {field : Field}
    (declared : field ∈ r.schema.attributes) :
    (r.entity.merge reread).get? field.name = (r.members links).get? field.name := by
  rw [Entity.get?_merge, agrees field declared]
  cases held : (r.members links).get? field.name with
  | some value => rfl
  | none =>
    cases set : r.entity.get? field.name with
    | none => rfl
    | some value =>
      have some := r.isSome_get?_members links declared set
      rw [held] at some
      cases some

end Record

end ResourceApi

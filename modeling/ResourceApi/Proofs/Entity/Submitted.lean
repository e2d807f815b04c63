import ResourceApi.Api.Perform
import ResourceApi.Proofs.Data.SortedMap

/-!
# What clients can submit

Of the members of an object an entity takes what stands for the attributes and the relations to one of its schema
(`Entity.Takes`), and the id of a related entity is read from the links before it is read under the key of the relation
(`Entity.Refers`). So an entity that is read from a body holds values only under names that its schema lets it hold one under
(`Entity.keepsTo_ofBody`), whatever else the body has. Putting it under the id of a path gives it that id or refuses it
(`Entity.under_eq_ok_iff`), and merging it into another goes over the values that it has and leaves the rest
(`Entity.get?_merge`).
-/

namespace ResourceApi

/-- What is put together from two results and succeeds does so through a success of the first. -/
theorem Except.ok_of_bind {ε α β : Type} {x : Except ε α} {f : α → Except ε β} {b : β} (h : x >>= f = .ok b) :
    ∃ a, x = .ok a ∧ f a = .ok b := by
  cases x with
  | error e => cases h
  | ok a => exact ⟨a, rfl, h⟩

/-- The names under which entities of a schema hold values: those of attributes, and the keys of relations to one. -/
def Schema.Admits (schema : Schema) (name : String) : Prop :=
  (∃ field ∈ schema.attributes, field.name = name) ∨ ∃ field ∈ schema.relations, field.key? = some name

/-- An entity holds values only under names that a schema admits. -/
def Entity.KeepsTo (e : Entity) (schema : Schema) : Prop :=
  ∀ name value, e.get? name = some value → schema.Admits name

theorem Json.str?_eq_some_iff {value : Json} {text : String} : value.str? = some text ↔ value = .str text := by
  cases value with
  | str s => simp only [str?, Option.some.injEq, str.injEq]
  | _ => exact ⟨nofun, nofun⟩

namespace Entity

/-! ## Reading -/

/-- A field that was set answers with its new value, and the others are left alone. -/
theorem get?_set (e : Entity) (name other : String) (value : Json) :
    (e.set name value).get? other = if other = name then some value else e.get? other :=
  e.fields.get?_insert name other value

/-- What a field takes from the members of an object, and the name under which it is put. -/
def taken? (members : List (String × Json)) (field : Field) : Option (String × Json) :=
  match field.kind with
  | .scalar | .nullable => (Entries.find? field.name members).map (field.name, ·)
  | .toOne _ key => (submittedReference members field.name key).map fun id => (key, .str id)
  | .toMany _ => none

/-- Taking a field sets the one value found for it, if any is found. -/
theorem takeField_eq (members : List (String × Json)) (e : Entity) (field : Field) :
    takeField members e field =
      match taken? members field with
      | some (name, value) => e.set name value
      | none => e := by
  obtain ⟨own, kind⟩ := field
  unfold takeField taken?
  cases kind with
  | scalar | nullable => cases Entries.find? own members <;> rfl
  | toOne target key =>
    simp only
    cases submittedReference members own key <;> rfl
  | toMany target => rfl

theorem id_foldl_takeField (members : List (String × Json)) (fields : List Field) (e : Entity) :
    (fields.foldl (takeField members) e).id = e.id := by
  induction fields generalizing e with
  | nil => rfl
  | cons first rest ih =>
    rw [List.foldl_cons, ih, takeField_eq]
    cases taken? members first <;> rfl

/-- Under a name stands what some field has taken for it, if any field takes something for it. -/
theorem get?_foldl_takeField (members : List (String × Json)) (fields : List Field) (e : Entity) (name : String) :
    ((∀ field ∈ fields, ∀ value, taken? members field ≠ some (name, value)) ∧
        (fields.foldl (takeField members) e).get? name = e.get? name) ∨
      ∃ field ∈ fields, ∃ value, taken? members field = some (name, value) ∧
        (fields.foldl (takeField members) e).get? name = some value := by
  -- A later field takes the place of an earlier one, so what the rest takes is asked first.
  induction fields generalizing e with
  | nil => exact .inl ⟨nofun, rfl⟩
  | cons first rest ih =>
    rw [List.foldl_cons]
    rcases ih (takeField members e first) with ⟨untaken, kept⟩ | ⟨field, among, value, taken, held⟩
    · rw [kept, takeField_eq]
      cases own : taken? members first with
      | none => exact .inl ⟨List.forall_mem_cons.2 ⟨fun value => by simp [own], untaken⟩, rfl⟩
      | some put =>
        obtain ⟨target, value⟩ := put
        simp only [get?_set]
        by_cases same : name = target
        · subst same
          exact .inr ⟨first, List.mem_cons_self, value, own, if_pos rfl⟩
        · refine .inl ⟨List.forall_mem_cons.2 ⟨fun other => ?_, untaken⟩, if_neg same⟩
          simp [own, Ne.symm same]
    · exact .inr ⟨field, List.mem_cons_of_mem _ among, value, taken, held⟩

/-- An attribute takes what the object holds under its name. -/
theorem taken?_of_attribute {schema : Schema} {field : Field} (declared : field ∈ schema.attributes)
    (members : List (String × Json)) : taken? members field = (Entries.find? field.name members).map (field.name, ·) := by
  have plain := (List.mem_filter.1 declared).2
  unfold taken?
  cases kind : field.kind with
  | scalar | nullable => rfl
  | toOne | toMany => simp [Field.isRelation, Field.target?, kind] at plain

variable {schema : Schema} {members : List (String × Json)}

/-- The links of an object name an id for a relation. -/
def Linked (members : List (String × Json)) (relation id : String) : Prop :=
  ∃ links, Entries.find? "links" members = some (.obj links) ∧ Entries.find? relation links = some (.str id)

/-- The id of a related entity that an object gives: what the links name for the relation or, where they name none, the text
under the key. -/
inductive Refers (members : List (String × Json)) (relation key : String) : String → Prop
  | linked {id : String} (h : Linked members relation id) : Refers members relation key id
  | kept {id : String} (unlinked : ∀ other, ¬Linked members relation other)
    (h : Entries.find? key members = some (.str id)) : Refers members relation key id

/-- What an entity of a schema takes from the members of an object, by the name under which it stands. -/
inductive Takes (schema : Schema) (members : List (String × Json)) (name : String) : Json → Prop
  /-- An attribute takes what stands under its name. -/
  | value {field : Field} {value : Json} (declared : field ∈ schema.attributes) (named : field.name = name)
    (h : Entries.find? name members = some value) : Takes schema members name value
  /-- A relation to one takes an id for its key. -/
  | reference {relation : Field} {id : String} (declared : relation ∈ schema.relations) (named : relation.key? = some name)
    (h : Refers members relation.name name id) : Takes schema members name (.str id)

/-- Members link to an id exactly when it is the text at the relation's name in their member of links. -/
theorem linked_iff {relation id : String} :
    Linked members relation id ↔
      (Entries.find? relation (((Entries.find? "links" members).bind Json.obj?).getD [])).bind Json.str? = some id := by
  unfold Linked
  cases Entries.find? "links" members with
  | none => exact ⟨nofun, nofun⟩
  | some value =>
    cases value with
    | obj links => simp [Json.obj?, Option.bind_eq_some_iff, Json.str?_eq_some_iff]
    | _ => exact ⟨nofun, nofun⟩

/-- The reference taken from the members is the one they make by the specification. -/
theorem submittedReference_eq_some_iff {relation key id : String} :
    submittedReference members relation key = some id ↔ Refers members relation key id := by
  have under_key : (Entries.find? key members).bind Json.str? = some id ↔ Entries.find? key members = some (.str id) := by
    simp [Option.bind_eq_some_iff, Json.str?_eq_some_iff]
  have unlinked : (Entries.find? relation (((Entries.find? "links" members).bind Json.obj?).getD [])).bind Json.str? = none ↔
      ∀ other, ¬Linked members relation other := by
    simp only [linked_iff, Option.eq_none_iff_forall_ne_some]
  unfold submittedReference
  rw [Option.or_eq_some_iff, ← linked_iff, unlinked, under_key]
  constructor
  · rintro (h | ⟨unlinked, h⟩)
    · exact .linked h
    · exact .kept unlinked h
  · rintro (h | ⟨unlinked, h⟩)
    · exact .inl h
    · exact .inr ⟨unlinked, h⟩

/-- A relation to one takes what the object refers to. -/
theorem taken?_of_key? {relation : Field} {key : String} (named : relation.key? = some key) :
    taken? members relation = (submittedReference members relation.name key).map fun id => (key, .str id) := by
  unfold Field.key? at named
  unfold taken?
  split at named
  · next kind => cases named; simp only [kind]
  · cases named

/-- What the fields of a schema take is what an entity of it takes. -/
theorem takes_iff {name : String} {value : Json} :
    Takes schema members name value ↔ ∃ field ∈ schema.fields, taken? members field = some (name, value) := by
  constructor
  · rintro (⟨declared, rfl, h⟩ | ⟨declared, named, h⟩)
    · exact ⟨_, (List.mem_filter.1 declared).1, by rw [taken?_of_attribute declared, h]; rfl⟩
    · exact ⟨_, (List.mem_filter.1 declared).1,
        by rw [taken?_of_key? named, submittedReference_eq_some_iff.2 h]; rfl⟩
  · rintro ⟨⟨own, kind⟩, declared, h⟩
    unfold taken? at h
    cases kind with
    | scalar | nullable =>
      obtain ⟨held, found, same⟩ := Option.map_eq_some_iff.1 h
      cases same
      exact .value (List.mem_filter.2 ⟨declared, rfl⟩) rfl found
    | toOne target key =>
      obtain ⟨id, found, same⟩ := Option.map_eq_some_iff.1 h
      cases same
      exact .reference (List.mem_filter.2 ⟨declared, rfl⟩) rfl (submittedReference_eq_some_iff.1 found)
    | toMany target => cases h

/-- What is taken stands under a name that the schema admits. -/
theorem Takes.admits {name : String} {value : Json} (h : Takes schema members name value) : schema.Admits name := by
  cases h with
  | value declared named found => exact .inl ⟨_, declared, named⟩
  | reference declared named refers => exact .inr ⟨_, declared, named⟩

/-- An entity read from members has no field its schema does not declare. -/
theorem keepsTo_ofMembers {e : Entity} (h : ofMembers schema members = .ok e) : e.KeepsTo schema := by
  obtain ⟨id, -, h⟩ := Except.ok_of_bind h
  obtain rfl := Except.ok.inj h
  intro name value held
  rcases get?_foldl_takeField members schema.fields (bare id) name with ⟨-, kept⟩ | ⟨field, declared, other, taken, -⟩
  · cases kept.symm.trans held
  · exact (takes_iff.2 ⟨field, declared, taken⟩).admits

/-- A body that is accepted gives an entity that keeps to the schema. -/
theorem keepsTo_ofBody {schema : Schema} {body : Bytes} {e : Entity} (h : ofBody schema body = .ok e) :
    e.KeepsTo schema := by
  unfold ofBody ofDocument at h
  split at h
  · cases h
  · split at h
    · cases h
    · obtain ⟨members, -, h⟩ := Except.ok_of_bind h
      exact keepsTo_ofMembers h

/-! ## Putting under an id -/

/-- An entity that names no id, or the id of the path, is put under that id with its values as they are; any other is
refused. -/
theorem under_eq_ok_iff {sent e : Entity} {id : String} :
    sent.under id = .ok e ↔ (sent.id = "" ∨ sent.id = id) ∧ e = { sent with id := id } := by
  unfold under
  simp only [String.isEmpty_iff]
  split
  · next nameless =>
    constructor
    · intro h
      exact ⟨.inl nameless, (Except.ok.inj h).symm⟩
    · rintro ⟨-, rfl⟩
      rfl
  · next named =>
    split
    · next same =>
      subst same
      constructor
      · intro h
        exact ⟨.inr rfl, (Except.ok.inj h).symm⟩
      · rintro ⟨-, rfl⟩
        rfl
    · next other =>
      constructor
      · intro h
        cases h
      · rintro ⟨h | h, -⟩
        · exact absurd h named
        · exact absurd h other

/-- The values of an entity stay as they are when it is put under an id. -/
theorem KeepsTo.under {sent e : Entity} {schema : Schema} {id : String} (h : sent.KeepsTo schema)
    (placed : sent.under id = .ok e) : e.KeepsTo schema := by
  obtain ⟨-, rfl⟩ := under_eq_ok_iff.1 placed
  exact h

/-! ## Merging -/

theorem merge_eq (e other : Entity) :
    e.merge other =
      { e with fields := other.fields.entries.foldl (fun fields p => fields.insert p.1 p.2) e.fields } := by
  unfold merge
  induction other.fields.entries generalizing e with
  | nil => rfl
  | cons p rest ih => exact ih (e.set p.1 p.2)

/-- Merging keeps the id. -/
theorem id_merge (e other : Entity) : (e.merge other).id = e.id := by
  rw [merge_eq]

/-- Merging goes over the values that the other entity has, and keeps the others. -/
theorem get?_merge (e other : Entity) (name : String) :
    (e.merge other).get? name = (other.get? name).or (e.get? name) := by
  rw [merge_eq]
  exact e.fields.get?_foldl_insert other.fields name

end Entity

end ResourceApi

import Mathlib.Data.List.Induction
import ResourceApi.Proofs.Data.Named
import ResourceApi.Schema.Basic

/-!
# Fields in the order of declaration

However fields are declared, one after another, a schema has its fields in the order in which their names were declared first
(`Fields.names_declareAll`), and under each name the field that was declared last (`Fields.find?_declareAll`). Relations are
declared under names with a small first letter, so two declarations may be of one name that were given two. A schema is known
from the order of the first declarations and the kinds of the last ones (`fields_settle_in_order`).
-/

namespace ResourceApi

/-- The last of some fields that has a name. -/
def Field.last? (name : String) (declared : List Field) : Option Field :=
  declared.findRev? fun field => field.name == name

theorem Field.name_of_last? {name : String} {declared : List Field} {field : Field}
    (h : Field.last? name declared = some field) : field.name = name := by
  rw [Field.last?, List.findRev?_eq_find?_reverse] at h
  simpa using List.find?_some h

/-- The kind with which a name was declared last. -/
def Field.lastKind? (name : String) (declared : List Field) : Option Field.Kind :=
  (Field.last? name declared).map Field.kind

/-- The last declaration of a name is known from its kind. -/
theorem Field.last?_eq_of_lastKind? {name : String} {declared declared' : List Field}
    (h : Field.lastKind? name declared = Field.lastKind? name declared') :
    Field.last? name declared = Field.last? name declared' := by
  unfold Field.lastKind? at h
  cases last : Field.last? name declared with
  | none =>
    rw [last, Option.map_none] at h
    exact (Option.map_eq_none_iff.1 h.symm).symm
  | some field =>
    rw [last, Option.map_some] at h
    obtain ⟨field', last', kind⟩ := Option.map_eq_some_iff.1 h.symm
    have named : field.name = field'.name := (Field.name_of_last? last).trans (Field.name_of_last? last').symm
    have same : field = field' := by
      cases field
      cases field'
      simp_all
    rw [last', same]

/-- The field declared last under a name is the new one if it has that name. -/
theorem Field.last?_concat (name : String) (declared : List Field) (field : Field) :
    Field.last? name (declared ++ [field]) = if field.name = name then some field else Field.last? name declared := by
  simp only [Field.last?, List.findRev?_eq_find?_reverse, List.reverse_concat]
  by_cases same : field.name = name <;> simp [same]

/-! ## Declaring one field -/

namespace Fields

/-- Declaring a field adds its name at the end unless it is there already. -/
theorem names_declare (field : Field) (fields : List Field) :
    (declare field fields).map Field.name =
      if field.name ∈ fields.map Field.name then fields.map Field.name else fields.map Field.name ++ [field.name] := by
  induction fields with
  | nil => simp [declare]
  | cons other rest ih =>
    unfold declare
    by_cases same : other.name = field.name
    · simp [same]
    · have different : field.name ≠ other.name := Ne.symm same
      simp only [if_neg same, List.map_cons, ih, List.mem_cons, different, false_or]
      split <;> rfl

/-- A name is found with the declared field if it is its name, and with what was there otherwise. -/
theorem find?_declare (field : Field) (fields : List Field) (name : String) :
    (declare field fields).find? (fun f => f.name == name) =
      if field.name = name then some field else fields.find? fun f => f.name == name := by
  induction fields with
  | nil => by_cases same : field.name = name <;> simp [declare, same]
  | cons other rest ih =>
    unfold declare
    by_cases replaced : other.name = field.name
    · by_cases same : field.name = name <;> simp [replaced, same]
    · by_cases same : field.name = name
      · have different : other.name ≠ name := same ▸ replaced
        simp [ih, same, different]
      · simp [replaced, ih, same, List.find?_cons]

/-! ## Declaring one field after another -/

/-- Declare fields one after another. -/
def declareAll (fields declared : List Field) : List Field :=
  declared.foldl (fun fields field => declare field fields) fields

theorem declareAll_concat (fields declared : List Field) (field : Field) :
    declareAll fields (declared ++ [field]) = declare field (declareAll fields declared) :=
  List.foldl_concat ..

section

variable {fields : List Field} (distinct : (fields.map Field.name).Nodup)

include distinct

/-- Names stand in the order in which they were declared first. -/
theorem names_declareAll (declared : List Field) :
    (declareAll fields declared).map Field.name = ((fields ++ declared).map Field.name).eraseDups := by
  -- The last declaration is made on what the others come to, so the induction goes back from the end.
  induction declared using List.reverseRecOn with
  | nil =>
    rw [List.append_nil, eraseDups_of_nodup distinct]
    rfl
  | append_singleton declared field ih =>
    have names : (fields ++ (declared ++ [field])).map Field.name = (fields ++ declared).map Field.name ++ [field.name] := by
      simp
    rw [declareAll_concat, names_declare, ih, names, eraseDups_concat]
    simp only [List.mem_eraseDups]

/-- Under a name stands what was declared last. -/
theorem find?_declareAll (declared : List Field) (name : String) :
    (declareAll fields declared).find? (fun f => f.name == name) = Field.last? name (fields ++ declared) := by
  induction declared using List.reverseRecOn with
  | nil =>
    rw [List.append_nil, Field.last?, findRev?_of_nodup distinct]
    rfl
  | append_singleton declared field ih =>
    rw [declareAll_concat, find?_declare, ih, ← List.append_assoc, Field.last?_concat]

end

end Fields

/-! ## Declarations on a schema -/

namespace Schema

/-- One declaration on a schema. -/
inductive Declaration where
  /-- A field under exactly the given name. -/
  | declare (name : String) (kind : Field.Kind)
  | scalar (name : String)
  | nullable (name : String)
  | toOne (name noun : String)
  | toOneBy (name noun key : String)
  | toMany (name noun : String)

/-- The field that is declared. -/
def Declaration.field : Declaration → Field
  | .declare name kind => ⟨name, kind⟩
  | .scalar name => ⟨name, .scalar⟩
  | .nullable name => ⟨name, .nullable⟩
  | .toOne name noun =>
    let relation := Naming.relationOf name
    ⟨relation, .toOne (Naming.typeOf noun) (relation ++ "ID")⟩
  | .toOneBy name noun key => ⟨Naming.relationOf name, .toOne (Naming.typeOf noun) key⟩
  | .toMany name noun => ⟨Naming.relationOf name, .toMany (Naming.typeOf noun)⟩

/-- A schema after a declaration. -/
def after (s : Schema) : Declaration → Schema
  | .declare name kind => s.declare name kind
  | .scalar name => s.scalar name
  | .nullable name => s.nullable name
  | .toOne name noun => s.toOne name noun
  | .toOneBy name noun key => s.toOneBy name noun key
  | .toMany name noun => s.toMany name noun

/-- A schema after some declarations. -/
def afterAll (s : Schema) (declarations : List Declaration) : Schema :=
  declarations.foldl after s

/-- The fields that were declared until some declarations were made: those of the schema, and then those. -/
def declared (s : Schema) (declarations : List Declaration) : List Field :=
  s.fields ++ declarations.map Declaration.field

theorem after_eq (s : Schema) (d : Declaration) : s.after d = s.declare d.field.name d.field.kind := by
  cases d <;> rfl

theorem eq_of_fields {s s' : Schema} (type : s.typeName = s'.typeName) (fields : s.fields = s'.fields) : s = s' := by
  cases s
  cases s'
  simp_all

theorem typeName_afterAll (s : Schema) (declarations : List Declaration) :
    (s.afterAll declarations).typeName = s.typeName := by
  induction declarations generalizing s with
  | nil => rfl
  | cons d rest ih =>
    have kept : (s.after d).typeName = s.typeName := by rw [after_eq, declare]
    exact (ih (s.after d)).trans kept

/-- A schema after declarations has the fields that were declared on top of its own. -/
theorem fields_afterAll (s : Schema) (declarations : List Declaration) :
    (s.afterAll declarations).fields = Fields.declareAll s.fields (declarations.map Declaration.field) := by
  induction declarations generalizing s with
  | nil => rfl
  | cons d rest ih =>
    have first : (s.after d).fields = Fields.declare d.field s.fields := by rw [after_eq, declare]
    exact (ih (s.after d)).trans (by rw [first, List.map_cons, Fields.declareAll, Fields.declareAll, List.foldl_cons])

/-- Attributes are the fields that hold values. -/
theorem kind_of_mem_attributes {s : Schema} {field : Field} (h : field ∈ s.attributes) :
    field.kind = .scalar ∨ field.kind = .nullable := by
  have value := (List.mem_filter.1 h).2
  unfold Field.isRelation Field.target? at value
  cases kind : field.kind <;> simp_all

section

variable (s : Schema) (declarations : List Declaration)

/-- The names of a schema are the declared ones, each at its first place. -/
theorem names_afterAll :
    (s.afterAll declarations).fields.map Field.name = ((s.declared declarations).map Field.name).eraseDups := by
  rw [fields_afterAll, Fields.names_declareAll s.distinct]
  rfl

/-- A name is found with the field that was declared under it last. -/
theorem find?_afterAll (name : String) :
    ((s.afterAll declarations).fields.find? fun f => f.name == name) = Field.last? name (s.declared declarations) := by
  rw [fields_afterAll, Fields.find?_declareAll s.distinct]
  rfl

/-- A relation has a name if what was declared last under the name is a relation. -/
theorem relation?_afterAll (name : String) :
    (s.afterAll declarations).relation? name = (Field.last? name (s.declared declarations)).filter Field.isRelation := by
  rw [relation?, relations, find?_filter_of_nodup (s.afterAll declarations).distinct, find?_afterAll]

/-- All fields, from the order of the first declarations and from the last ones. -/
theorem fields_eq_filterMap :
    (s.afterAll declarations).fields =
      ((s.declared declarations).map Field.name).eraseDups.filterMap fun name =>
        Field.last? name (s.declared declarations) := by
  have all := filterMap_find?_of_nodup (s.afterAll declarations).distinct
  simp only [names_afterAll, find?_afterAll] at all
  exact all.symm

end

end Schema

/-- Whatever is declared on a schema, and however often: its fields have distinct names, in the order in which these were
declared first, and each is what was declared last under its name. The attributes, which hold values, and the relations keep this
order and have each field once between them, and a relation is found under a name if and only if what was declared last under it
is a relation, which is then the one. So a schema does not depend on anything else: other declarations whose names were first
declared in the same order, and last with the same kinds, come to the same schema. -/
theorem fields_settle_in_order (s : Schema) (declarations : List Schema.Declaration) :
    let declared := s.declared declarations
    let built := s.afterAll declarations
    built.typeName = s.typeName ∧
      (built.fields.map Field.name).Nodup ∧
      built.fields.map Field.name = (declared.map Field.name).eraseDups ∧
      (∀ field ∈ built.fields, Field.last? field.name declared = some field) ∧
      built.attributes.Sublist built.fields ∧ built.relations.Sublist built.fields ∧
      (built.attributes ++ built.relations).Perm built.fields ∧
      (∀ field ∈ built.attributes, field.kind = .scalar ∨ field.kind = .nullable) ∧
      (∀ name, built.relation? name = (Field.last? name declared).filter Field.isRelation) ∧
      ∀ (s' : Schema) (declarations' : List Schema.Declaration), s'.typeName = s.typeName →
        ((s'.declared declarations').map Field.name).eraseDups = (declared.map Field.name).eraseDups →
        (∀ name ∈ declared.map Field.name,
          Field.lastKind? name (s'.declared declarations') = Field.lastKind? name declared) →
        s'.afterAll declarations' = built := by
  intro declared built
  have last (field : Field) (held : field ∈ built.fields) : Field.last? field.name declared = some field := by
    rw [← s.find?_afterAll declarations]
    exact find?_of_nodup built.distinct held
  have parted : (built.attributes ++ built.relations).Perm built.fields :=
    List.perm_append_comm.trans (List.filter_append_perm Field.isRelation built.fields)
  refine ⟨s.typeName_afterAll declarations, built.distinct, s.names_afterAll declarations, last, List.filter_sublist,
    List.filter_sublist, parted, fun _ => Schema.kind_of_mem_attributes, s.relation?_afterAll declarations,
    fun s' declarations' type order kinds => ?_⟩
  refine Schema.eq_of_fields ?_ ?_
  · rw [s'.typeName_afterAll, s.typeName_afterAll, type]
  · rw [s'.fields_eq_filterMap, s.fields_eq_filterMap, order]
    refine List.filterMap_congr fun name held => Field.last?_eq_of_lastKind? ?_
    exact kinds name (List.mem_eraseDups.1 held)

namespace Schema

/-- An attribute whose name a relation takes that was given it with a capital letter, and a relation that becomes an
attribute. -/
def roundabout : List Declaration :=
  [.scalar "title", .toOne "Author" "User", .nullable "author", .toOneBy "title" "Note" "noteID", .toMany "Title" "Tag"]

/-- The same fields, each declared once. -/
def straight : List Declaration :=
  [.toMany "title" "Tag", .declare "author" .nullable]

end Schema

/-- Declarations that take the place of others leave the schema that the last ones alone make. -/
theorem roundabout_fields_settle :
    let posts := Schema.ofNoun "Post"
    let declared := posts.declared Schema.roundabout
    let built := posts.afterAll Schema.roundabout
    ((posts.declared Schema.straight).map Field.name).eraseDups = (declared.map Field.name).eraseDups ∧
      (∀ name ∈ declared.map Field.name,
        Field.lastKind? name (posts.declared Schema.straight) = Field.lastKind? name declared) ∧
      posts.afterAll Schema.straight = built ∧ built.fields.map Field.name = ["title", "author"] ∧
      built.relation? "title" = some ⟨"title", .toMany "tags"⟩ ∧ built.relation? "author" = none := by
  intro posts declared built
  obtain ⟨-, -, names, -, -, -, -, -, relations, same⟩ := fields_settle_in_order posts Schema.roundabout
  have order : ((posts.declared Schema.straight).map Field.name).eraseDups = (declared.map Field.name).eraseDups := by
    decide +kernel
  have kinds : ∀ name ∈ declared.map Field.name,
      Field.lastKind? name (posts.declared Schema.straight) = Field.lastKind? name declared := by
    decide +kernel
  refine ⟨order, kinds, same posts Schema.straight rfl order kinds, names.trans (by decide +kernel), ?_, ?_⟩
  · exact (relations "title").trans (by decide +kernel)
  · exact (relations "author").trans (by decide +kernel)

end ResourceApi

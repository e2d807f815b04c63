import ResourceApi.Schema.Naming

/-!
# Schemas

A schema names a resource type and lists its fields: attributes, which entities carry as values, and relations, which
lead to entities of another type. A schema is built by declaring fields one after another. A second declaration of a
name takes the place of the first, so the names of the fields are distinct and in the order of first declaration.
-/

namespace ResourceApi

/-- What a field holds. -/
inductive Field.Kind where
  /-- A value, shown when it is set. -/
  | scalar
  /-- A value, shown as null when it is not set. -/
  | nullable
  /-- The one entity of the target type whose id the entity keeps under the key. -/
  | toOne (target key : String)
  /-- The entities of the target type that name the owner. -/
  | toMany (target : String)
  deriving DecidableEq, Repr

/-- A named field. -/
structure Field where
  name : String
  kind : Field.Kind
  deriving DecidableEq, Repr

namespace Field

/-- The type that a relation leads to. -/
def target? (f : Field) : Option String :=
  match f.kind with
  | .toOne target _ => some target
  | .toMany target => some target
  | .scalar | .nullable => none

/-- The name under which an entity keeps the id of its one related entity. -/
def key? (f : Field) : Option String :=
  match f.kind with
  | .toOne _ key => some key
  | _ => none

/-- Whether a field is a relation. -/
def isRelation (f : Field) : Bool :=
  f.target?.isSome

end Field

/-- Put a field in the place of the one of its name, or at the end if there is none. -/
def Fields.declare (field : Field) : List Field → List Field
  | [] => [field]
  | other :: rest => if other.name = field.name then field :: rest else other :: declare field rest

theorem Fields.mem_names_declare {field : Field} {fields : List Field} {name : String}
    (h : name ∈ (Fields.declare field fields).map Field.name) :
    name = field.name ∨ name ∈ fields.map Field.name := by
  induction fields with
  | nil => simpa [Fields.declare] using h
  | cons other rest ih =>
    simp only [Fields.declare] at h
    split at h
    · rcases List.mem_cons.1 h with h | h
      · exact .inl h
      · exact .inr (List.mem_cons_of_mem _ h)
    · rcases List.mem_cons.1 h with h | h
      · exact .inr (h ▸ List.mem_cons_self)
      · exact (ih h).imp_right (List.mem_cons_of_mem _)

theorem Fields.nodup_declare {field : Field} {fields : List Field} (h : (fields.map Field.name).Nodup) :
    ((Fields.declare field fields).map Field.name).Nodup := by
  induction fields with
  | nil => simp [Fields.declare]
  | cons other rest ih =>
    obtain ⟨hother, hrest⟩ := List.nodup_cons.1 h
    simp only [Fields.declare]
    split
    · next heq => exact List.nodup_cons.2 ⟨heq ▸ hother, hrest⟩
    · next hne =>
      refine List.nodup_cons.2 ⟨fun hmem => ?_, ih hrest⟩
      rcases Fields.mem_names_declare hmem with h' | h'
      · exact hne h'
      · exact hother h'

/-- A resource type and its fields. -/
structure Schema where
  /-- The name of the resource type. -/
  typeName : String
  /-- The fields, in the order of first declaration. -/
  fields : List Field
  /-- No two fields have one name. -/
  distinct : (fields.map Field.name).Nodup := by decide
  deriving DecidableEq, Repr

namespace Schema

/-- A schema without fields for a resource type of a given name. -/
def named (typeName : String) : Schema where
  typeName := typeName
  fields := []

/-- A schema without fields for the resource type of a noun. -/
def ofNoun (noun : String) : Schema :=
  named (Naming.typeOf noun)

/-- Declare a field under exactly the given name. -/
def declare (s : Schema) (name : String) (kind : Field.Kind) : Schema where
  typeName := s.typeName
  fields := Fields.declare ⟨name, kind⟩ s.fields
  distinct := Fields.nodup_declare s.distinct

/-- Declare an attribute. -/
def scalar (s : Schema) (name : String) : Schema :=
  s.declare name .scalar

/-- Declare an attribute that is shown as null when it is not set. -/
def nullable (s : Schema) (name : String) : Schema :=
  s.declare name .nullable

/-- Declare a relation to one entity of the type of a noun, whose id is kept under a given key. -/
def toOneBy (s : Schema) (name noun key : String) : Schema :=
  s.declare (Naming.relationOf name) (.toOne (Naming.typeOf noun) key)

/-- Declare a relation to one entity of the type of a noun; the key is the name of the relation with `ID` after it. -/
def toOne (s : Schema) (name noun : String) : Schema :=
  s.toOneBy name noun (Naming.relationOf name ++ "ID")

/-- Declare a relation to the entities of the type of a noun. -/
def toMany (s : Schema) (name noun : String) : Schema :=
  s.declare (Naming.relationOf name) (.toMany (Naming.typeOf noun))

/-- The fields that are attributes. -/
def attributes (s : Schema) : List Field :=
  s.fields.filter fun f => !f.isRelation

/-- The fields that are relations. -/
def relations (s : Schema) : List Field :=
  s.fields.filter Field.isRelation

/-- The relation of a name. -/
def relation? (s : Schema) (name : String) : Option Field :=
  s.relations.find? fun f => f.name == name

/-- The query parameter by which the entities of another type are narrowed to those of one owner of this type. -/
def ownerParameter (s : Schema) : String :=
  s.typeName ++ "ID"

end Schema

end ResourceApi

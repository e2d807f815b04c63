import ResourceApi.Registry.Basic

/-!
# Describing resources

A resource in one line for people who look into a running server: its schema in full, and of data source and
controller only whether they are there.
-/

namespace ResourceApi

/-- A description of named parts: a name and the parts in braces. -/
def describeParts (name : String) (parts : List (String × String)) : String :=
  name ++ " \x7b " ++ Text.join ", " (parts.map fun part => part.1 ++ ": " ++ part.2) ++ " \x7d"

/-- The kind of a field in words. -/
def Field.Kind.describe : Field.Kind → String
  | scalar => "Scalar"
  | nullable => "NullableScalar"
  | toOne target key => describeParts "ToOne" [("target", Text.quoted target), ("foreign_key", Text.quoted key)]
  | toMany target => describeParts "ToMany" [("target", Text.quoted target)]

/-- A field in words. -/
def Field.describe (f : Field) : String :=
  describeParts "FieldDescriptor" [("name", Text.quoted f.name), ("kind", f.kind.describe)]

/-- A schema in words. -/
def Schema.describe (s : Schema) : String :=
  describeParts "Schema"
    [("type_name", Text.quoted s.typeName), ("fields", "[" ++ Text.join ", " (s.fields.map Field.describe) ++ "]")]

/-- A resource in words. -/
def Resource.describe {σ : Type} (r : Resource σ) : String :=
  let hidden := Text.quoted "..."
  describeParts "ResourceDefinition"
    [("schema", r.schema.describe), ("source", hidden),
      ("controller", if r.controller.isSome then "Some(" ++ hidden ++ ")" else "None")]

end ResourceApi

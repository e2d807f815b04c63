import ResourceApi.Plan.Basic
import ResourceApi.Schema.Basic

/-!
# Catalogues

What the engine knows of the resources it serves before it calls any of them: their schemas, and which of them have a
controller.
-/

namespace ResourceApi

/-- The answer that a controller decided on, or if it decided on none that of the data source. -/
def Verdict.orAsk {α : Type} (verdict : Verdict α) (source : Engine α) : Engine α :=
  match verdict with
  | .replace answer => pure answer
  | .proceed => source

/-- What is known of a resource. -/
structure Offering where
  schema : Schema
  /-- Whether a controller is asked before the data source. -/
  controlled : Bool
  deriving DecidableEq, Repr

namespace Offering

/-- The name of the resource type. -/
def typeName (o : Offering) : String :=
  o.schema.typeName

/-- Ask the controller; where there is none, nothing stands against going on. -/
def consult (o : Offering) (request : Request) (hook : Hook) : Engine (Verdict hook.Replacement) :=
  if o.controlled then Engine.call (.consult o.typeName request hook) else pure .proceed

/-- The answer of the controller, or if it has none that of the data source. -/
def answer (o : Offering) (request : Request) (hook : Hook) (source : Engine hook.Replacement) :
    Engine hook.Replacement := do
  let verdict ← o.consult request hook
  verdict.orAsk source

/-- The relation of a name, or the refusal of a relation that the type does not have. -/
def relation (o : Offering) (name : String) : Except Refusal Field :=
  match o.schema.relation? name with
  | some field => .ok field
  | none => .error (.unknownRelation name o.typeName)

end Offering

/-- The resources that are served; no two have one type name. -/
structure Catalogue where
  offerings : List Offering
  distinct : (offerings.map Offering.typeName).Nodup

namespace Catalogue

/-- The resource of a type name. -/
def lookup? (c : Catalogue) (type : String) : Option Offering :=
  c.offerings.find? fun o => o.typeName == type

/-- The resource of a type name, or the refusal of a type that is not served. -/
def find (c : Catalogue) (type : String) : Except Refusal Offering :=
  match c.lookup? type with
  | some o => .ok o
  | none => .error (.unknownType type)

/-- The schema of a type name. -/
def schema? (c : Catalogue) (type : String) : Option Schema :=
  (c.lookup? type).map Offering.schema

end Catalogue

end ResourceApi

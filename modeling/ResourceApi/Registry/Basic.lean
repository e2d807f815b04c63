import ResourceApi.Catalogue
import ResourceApi.Registry.Source
import ResourceApi.Text.Quoted

/-!
# Registries

A registry holds the resources of a server: of each its schema, its data source and perhaps its controller. It is
filled one resource after another, and a type name that is taken is refused. A registry answers the calls of a plan
by the data sources and controllers registered under their types (`Registry.backend`).
-/

namespace ResourceApi

/-- A resource as it is registered. -/
structure Resource (σ : Type) where
  schema : Schema
  source : Source σ
  controller : Option (Controller σ) := none

namespace Resource

variable {σ : Type}

/-- What is known of a resource before it is called. -/
def offering (r : Resource σ) : Offering where
  schema := r.schema
  controlled := r.controller.isSome

/-- The name of the resource type. -/
def typeName (r : Resource σ) : String :=
  r.offering.typeName

/-- What the controller of a resource decides; without a controller, to go on. -/
def consult (r : Resource σ) (request : Request) (hook : Hook) : Action σ (Verdict hook.Replacement) :=
  match r.controller with
  | some c => c.consult request hook
  | none => .pure .proceed

end Resource

/-- A resource type was registered twice. -/
structure DuplicateType where
  typeName : String
  deriving DecidableEq, Repr

namespace DuplicateType

/-- The message for whoever sets up the server. -/
def message (e : DuplicateType) : String :=
  "resource type already registered: " ++ e.typeName

end DuplicateType

/-- The resources of a server in the order of registration; no two have one type name. -/
structure Registry (σ : Type) where
  resources : List (Resource σ)
  distinct : (resources.map Resource.typeName).Nodup

namespace Registry

variable {σ : Type}

/-- A registry without resources. -/
def empty : Registry σ where
  resources := []
  distinct := .nil

/-- Whether a type name is taken. -/
def isTaken (registry : Registry σ) (type : String) : Bool :=
  (registry.resources.map Resource.typeName).contains type

/-- A registry with one resource more, of which the type name is free. -/
def add (registry : Registry σ) (r : Resource σ) (free : ¬registry.isTaken r.typeName = true) : Registry σ where
  resources := registry.resources ++ [r]
  distinct := by
    rw [List.map_append, List.nodup_append]
    refine ⟨registry.distinct, by simp, ?_⟩
    intro t ht t' ht'
    obtain rfl : t' = r.typeName := by simpa using ht'
    rintro rfl
    exact free (List.contains_iff_mem.2 ht)

/-- Try to register a resource, with or without a controller: whether that succeeds, and the registry that is left. Whether the
type name is taken is asked before anything is changed. -/
def attempt (registry : Registry σ) (r : Resource σ) : Except DuplicateType Unit × Registry σ :=
  if taken : registry.isTaken r.typeName then (.error ⟨r.typeName⟩, registry)
  else (.ok (), registry.add r taken)

/-- Register a resource, unless its type name is taken. -/
def register (registry : Registry σ) (r : Resource σ) : Except DuplicateType (Registry σ) :=
  match registry.attempt r with
  | (.ok (), more) => .ok more
  | (.error refusal, _) => .error refusal

/-- Add resources one after another until one is refused. -/
def registerAll (registry : Registry σ) (resources : List (Resource σ)) : Except DuplicateType (Registry σ) :=
  resources.foldlM register registry

/-- The resource of a type name. -/
def lookup? (registry : Registry σ) (type : String) : Option (Resource σ) :=
  registry.resources.find? fun r => r.typeName == type

/-- The type names in code point order. -/
def typeNames (registry : Registry σ) : List String :=
  (SortedMap.ofList (registry.resources.map fun r => (r.typeName, ()))).names

/-- The number of resources. -/
def size (registry : Registry σ) : Nat :=
  registry.resources.length

/-- Whether there are no resources. -/
def isEmpty (registry : Registry σ) : Bool :=
  registry.resources.isEmpty

/-- What is known of the resources before they are called. -/
def catalogue (registry : Registry σ) : Catalogue where
  offerings := registry.resources.map Resource.offering
  distinct := by
    rw [List.map_map]
    exact registry.distinct

/-- Do something with the resource of a type, or fail if there is none. -/
def withResource {α : Type} (registry : Registry σ) (type : String) (act : Resource σ → Action σ α) : Action σ α :=
  match registry.lookup? type with
  | some r => act r
  | none => .fail (Refusal.unknownType type).fault

/-- Answer the calls of a plan by the data sources and controllers of the registry. -/
def backend (registry : Registry σ) : Backend σ
  | .list type request => registry.withResource type fun r => r.source.list request
  | .fetch type id request => registry.withResource type fun r => r.source.fetch id request
  | .fetchMany type ids request => registry.withResource type fun r => r.source.fetchMany ids request
  | .create type entity => registry.withResource type fun r => r.source.create entity
  | .update type entity => registry.withResource type fun r => r.source.update entity
  | .delete type id => registry.withResource type fun r => r.source.delete id
  | .consult type request hook => registry.withResource type fun r => r.consult request hook

end Registry

end ResourceApi

import ResourceApi.Api.Perform
import ResourceApi.Proofs.Document.Schemas
import ResourceApi.Proofs.Plan.Resumption
import ResourceApi.Proofs.Registry.Steady

/-!
# Registries without a controller

When the controller of a type is taken out of a registry, the schemas and the data sources stay, and so do the other
controllers. So only calls to that controller are answered differently (`backend_withoutController`), and an API performs
the operations on a resource as before (`Api.performOn_congr`).
-/

namespace ResourceApi

variable {σ : Type}

/-- Whether a call asks a controller. All others go to data sources. -/
def Call.consults : Call → Bool
  | consult _ _ _ => true
  | _ => false

/-- To ask a controller is not to read. -/
theorem Call.Reads.not_consults {call : Call} (h : call.Reads) : call.consults = false := by
  cases call with
  | consult => exact h.elim
  | _ => rfl

/-- A resource without its controller. -/
def Resource.bare (r : Resource σ) : Resource σ :=
  { r with controller := none }

/-- A resource of one type without its controller; any other as it is. -/
def Resource.bareAs (type : String) (r : Resource σ) : Resource σ :=
  if r.typeName == type then r.bare else r

/-- A resource keeps its type name without its controller. -/
theorem Resource.typeName_bareAs (type : String) (r : Resource σ) : (r.bareAs type).typeName = r.typeName := by
  unfold bareAs
  split <;> rfl

/-- Without its controller a resource answers the same, unless it is the controller that is asked. -/
theorem Resource.answer_bareAs {type : String} {r : Resource σ} {call : Call}
    (h : call.consults = true → r.typeName ≠ type) : (r.bareAs type).answer call = r.answer call := by
  unfold bareAs
  split
  · next same =>
    cases call with
    | consult => exact absurd (eq_of_beq same) (h rfl)
    | _ => rfl
  · rfl

namespace Registry

/-- A registry without the controller of a type. -/
def withoutController (registry : Registry σ) (type : String) : Registry σ where
  resources := registry.resources.map (Resource.bareAs type)
  distinct := by
    have names : Resource.typeName ∘ Resource.bareAs type = (Resource.typeName : Resource σ → String) :=
      funext (Resource.typeName_bareAs type)
    rw [List.map_map, names]
    exact registry.distinct

/-- The API that serves the resources of a registry. -/
def api (registry : Registry σ) (mount : Mount) : Api where
  catalogue := registry.catalogue
  mount := mount

variable (registry : Registry σ) (type : String)

/-- The same resources are found without the controller, and the one of the type is found without it. -/
theorem lookup?_withoutController (other : String) :
    (registry.withoutController type).lookup? other = (registry.lookup? other).map (Resource.bareAs type) := by
  have names : ((fun r => r.typeName == other) ∘ Resource.bareAs type) =
      fun r : Resource σ => r.typeName == other :=
    funext fun r => congrArg (· == other) (r.typeName_bareAs type)
  unfold lookup? withoutController
  rw [List.find?_map, names]

/-- The schemas of a catalogue are those of the resources that are found. -/
theorem schema?_catalogue (other : String) :
    registry.catalogue.schema? other = (registry.lookup? other).map Resource.schema := by
  rw [Catalogue.schema?, catalogue_lookup?, Option.map_map]
  rfl

/-- A resource that is found is served by its schema. -/
theorem schema?_of_lookup? {type : String} {r : Resource σ} (h : registry.lookup? type = some r) :
    registry.catalogue.schema? type = some r.schema := by
  rw [schema?_catalogue, h]
  rfl

/-- A resource that is registered is served by its schema. -/
theorem schema?_of_mem {r : Resource σ} (h : r ∈ registry.resources) :
    registry.catalogue.schema? r.typeName = some r.schema :=
  registry.schema?_of_lookup? (lookup?_of_mem h)

/-- Without the controller the same schemas are served. -/
theorem schema?_withoutController :
    (registry.withoutController type).catalogue.schema? = registry.catalogue.schema? := by
  funext other
  rw [schema?_catalogue, schema?_catalogue, lookup?_withoutController, Option.map_map]
  refine congrArg (fun f => (registry.lookup? other).map f) (funext fun r => ?_)
  unfold Function.comp Resource.bareAs
  split <;> rfl

/-- Data sources answer the same without the controller, and so do the other controllers. -/
theorem backend_withoutController {call : Call} (h : call.consults = true → call.type ≠ type) :
    (registry.withoutController type).backend call = registry.backend call := by
  have bare := registry.lookup?_withoutController type call.type
  cases hr : registry.lookup? call.type with
  | none =>
    rw [hr] at bare
    rw [backend_of_none call hr, backend_of_none call bare]
  | some r =>
    rw [hr] at bare
    rw [backend_of_some call hr, backend_of_some call bare]
    exact Resource.answer_bareAs fun asks => typeName_of_lookup? hr ▸ h asks

end Registry

/-- What an API makes of an operation on a resource depends on the schemas of the other types, and on nothing else about
them. -/
theorem Api.performOn_congr {c c' : Catalogue} (same : c.schema? = c'.schema?) (mount : Mount) (o : Offering)
    (shape : Shape) (request : Request) (operation : Operation) :
    (Api.mk c mount).performOn o shape request operation = (Api.mk c' mount).performOn o shape request operation := by
  have one : ((Api.mk c mount).viewpoint request).reportOf = ((Api.mk c' mount).viewpoint request).reportOf :=
    Viewpoint.reportOf_congr same _ _
  have all : ((Api.mk c mount).viewpoint request).reportOfAll = ((Api.mk c' mount).viewpoint request).reportOfAll :=
    Viewpoint.reportOfAll_congr same _ _
  have relatives : ((Api.mk c mount).viewpoint request).reportOfRelatives =
      ((Api.mk c' mount).viewpoint request).reportOfRelatives :=
    Viewpoint.reportOfRelatives_congr same _ _
  have related : ((Api.mk c mount).viewpoint request).related = ((Api.mk c' mount).viewpoint request).related :=
    Viewpoint.related_congr same _ _
  cases operation with
  | list => simp only [performOn, list, all]
  | fetch => simp only [performOn, fetch, one]
  | fetchMany => simp only [performOn, fetchMany, all]
  | follow => simp only [performOn, follow, related, relatives]
  | create =>
    simp only [performOn, create, one]
    rfl
  | update => rfl
  | delete => rfl
  | options => rfl

end ResourceApi

import Mathlib.Data.List.Forall2
import ResourceApi.Proofs.Plan.Discretion
import ResourceApi.Proofs.Registry.Controllers

/-!
# Registries that differ in their faults

Two registries are twins if they hold the same resources and the data sources and controllers of these answer alike: where
one succeeds the other does, with the same answer, and where one fails the other does, perhaps with another fault. Their
states may be of different types, as long as they make no difference to the answers. A registry and its twin have one
catalogue, and their backends answer alike but for the faults (`Registry.Twins.backend`).
-/

namespace ResourceApi

variable {σ τ : Type}

/-- Two resources have one schema, and their data sources and controllers answer every call alike, but for the faults. -/
structure Resource.Twins (same : σ → τ → Prop) (r : Resource σ) (other : Resource τ) : Prop where
  schema : r.schema = other.schema
  controlled : r.controller.isSome = other.controller.isSome
  answers : ∀ call, Action.Twins same (r.answer call) (other.answer call)

/-- Of twins the same is known before they are called. -/
theorem Resource.Twins.offering {same : σ → τ → Prop} {r : Resource σ} {other : Resource τ} (h : r.Twins same other) :
    r.offering = other.offering := by
  unfold Resource.offering
  rw [h.schema, h.controlled]

/-- Twins have one type name. -/
theorem Resource.Twins.typeName {same : σ → τ → Prop} {r : Resource σ} {other : Resource τ} (h : r.Twins same other) :
    r.typeName = other.typeName :=
  congrArg Offering.typeName h.offering

namespace Registry

/-- Two registries hold the same resources in the same order, but for the faults of data sources and controllers. -/
def Twins (same : σ → τ → Prop) (registry : Registry σ) (other : Registry τ) : Prop :=
  List.Forall₂ (Resource.Twins same) registry.resources other.resources

variable {same : σ → τ → Prop}

/-- Of resources that are twins one by one the same is known before they are called. -/
theorem offerings_of_twins {resources : List (Resource σ)} {others : List (Resource τ)}
    (twins : List.Forall₂ (Resource.Twins same) resources others) :
    resources.map Resource.offering = others.map Resource.offering := by
  induction twins with
  | nil => rfl
  | cons first _ ih => rw [List.map_cons, List.map_cons, first.offering, ih]

/-- Of twins, either none has a type name, or those are found that are twins. -/
theorem find?_of_twins {resources : List (Resource σ)} {others : List (Resource τ)}
    (twins : List.Forall₂ (Resource.Twins same) resources others) (type : String) :
    Option.Rel (Resource.Twins same) (resources.find? fun r => r.typeName == type)
      (others.find? fun r => r.typeName == type) := by
  induction twins with
  | nil => exact .none
  | @cons r r' rest rest' first _ ih =>
    have name := first.typeName
    by_cases named : r.typeName = type
    · have named' : r'.typeName = type := name ▸ named
      simpa [named, named'] using first
    · have unnamed' : ¬r'.typeName = type := name ▸ named
      simpa [named, unnamed'] using ih

variable {registry : Registry σ} {other : Registry τ}

/-- They serve the same resources, as far as is known before any is called. -/
theorem Twins.catalogue (twins : registry.Twins same other) : registry.catalogue = other.catalogue := by
  have offerings := offerings_of_twins twins
  unfold Registry.catalogue
  congr

/-- So they serve the same API. -/
theorem Twins.api (twins : registry.Twins same other) (mount : Mount) : registry.api mount = other.api mount := by
  unfold Registry.api
  rw [twins.catalogue]

/-- Every call is answered alike, but for the faults. -/
theorem Twins.backend (twins : registry.Twins same other) : registry.backend.Twins same other.backend := by
  intro call
  have found := find?_of_twins twins call.type
  change Option.Rel _ (registry.lookup? call.type) (other.lookup? call.type) at found
  cases hr : registry.lookup? call.type with
  | none =>
    cases hr' : other.lookup? call.type with
    | none =>
      intro s t hs
      rw [backend_of_none call hr, backend_of_none call hr']
      exact ⟨.error _ _, hs⟩
    | some r' => simp [hr, hr'] at found
  | some r =>
    cases hr' : other.lookup? call.type with
    | none => simp [hr, hr'] at found
    | some r' =>
      rw [hr, hr', Option.rel_some_some] at found
      rw [backend_of_some call hr, backend_of_some call hr']
      exact found.answers call

end Registry

end ResourceApi

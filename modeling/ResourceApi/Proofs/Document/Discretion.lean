import ResourceApi.Document.Assembly
import ResourceApi.Proofs.Plan.Discretion

/-!
# Reports do not tell faults apart

While a report is put together, a relation that cannot be looked up counts as empty, and the fault is dropped. This also
holds where a second way is tried after the first has failed: the fault that is kept meanwhile is dropped in the end. So a
report depends on which lookups fail, and not on how (`Viewpoint.discreet_reportOf`, `Viewpoint.discreet_reportOfAll`).
-/

namespace ResourceApi

namespace Record

variable (owner : Record) (target : Schema) (headers : Headers)

/-- The entities that name an owner are asked for in one call, and the fault of this call is passed on. -/
theorem discreet_owned : (owner.owned target headers).run.Discreet Akin (owner.owned target headers).run :=
  Engine.discreet_call (.list target.typeName (owner.ownedRequest target headers))

/-- Following a reference comes to akin results: which fault is kept while the second way is tried depends on the first,
but whether there is one does not. -/
theorem discreet_referenced (id : String) :
    (owner.referenced target headers id).run.Discreet Akin (owner.referenced target headers id).run := by
  have fetched := Engine.discreet_call (.fetch target.typeName id (referenceRequest target headers))
  refine Plan.Discreet.bind fetched fun found found' akin => ?_
  cases akin with
  | ok entity => exact .done (.ok (some entity))
  | error fault other =>
    refine (owner.discreet_owned target headers).bind fun more more' akin => ?_
    cases akin with
    | ok entities => exact .done (.ok _)
    | error _ _ => exact .done (.error fault other)

/-- The entity that belongs to a record by a key is found in akin ways, by a reference or as the only one that names the
record. -/
theorem discreet_partner (key : String) :
    (owner.partner target headers key).run.Discreet Akin (owner.partner target headers key).run := by
  unfold partner
  split
  · exact owner.discreet_referenced target headers _
  · exact Engine.discreet_bind (owner.discreet_owned target headers) fun entities => Engine.discreet_pure _

end Record

namespace Viewpoint

variable (v : Viewpoint)

/-! ## Lookups -/

section Lookups

variable (owner : Record)

/-- A reference that cannot be followed leads nowhere, whichever the fault is. -/
theorem discreet_follow (target : Schema) (id : String) :
    (v.follow owner target id).Discreet Eq (v.follow owner target id) := by
  refine (owner.discreet_referenced target v.headers id).bind fun found found' akin => ?_
  cases akin with
  | ok entity => cases entity <;> exact .done rfl
  | error fault other => exact .done rfl

/-- If the records of an owner cannot be listed there are none, whichever the fault is. -/
theorem discreet_gather (target : Schema) : (v.gather owner target).Discreet Eq (v.gather owner target) := by
  refine (owner.discreet_owned target v.headers).bind fun found found' akin => ?_
  cases akin with
  | ok entities => exact .done rfl
  | error fault other => exact .done rfl

/-- The record of a relation to one is found without regard to faults: either nothing is asked for, or a reference is
followed. -/
theorem discreet_foundOne (sideLoad : Bool) (target key : String) :
    (v.foundOne owner sideLoad target key).Discreet Eq (v.foundOne owner sideLoad target key) := by
  unfold foundOne
  split
  · exact v.discreet_follow owner _ _
  · exact .done rfl

/-- The records of a relation to many are found without regard to faults. -/
theorem discreet_foundMany (target : String) :
    (v.foundMany owner target).Discreet Eq (v.foundMany owner target) := by
  unfold foundMany
  split
  · exact v.discreet_gather owner _
  · exact .done rfl

/-- A field is looked up without regard to faults, as its kind says. -/
theorem discreet_lookup (sideLoad : Bool) (field : Field) :
    (v.lookup owner sideLoad field).Discreet Eq (v.lookup owner sideLoad field) := by
  unfold lookup
  split
  · exact .done rfl
  · exact .done rfl
  · exact ((v.discreet_foundOne owner sideLoad _ _).bind_eq fun _ => .done rfl).map some
  · exact ((v.discreet_foundMany owner _).bind_eq fun _ => .done rfl).map some

/-- The relations of a record are looked up one after another, each without regard to faults. -/
theorem discreet_lookups (sideLoad : Bool) :
    (v.lookups owner sideLoad).Discreet Eq (v.lookups owner sideLoad) := by
  have each : ∀ field ∈ owner.schema.relations,
      (v.lookup owner sideLoad field).Discreet Eq (v.lookup owner sideLoad field) :=
    fun field _ => v.discreet_lookup owner sideLoad field
  exact (Plan.Discreet.forEach each).bind_eq fun _ => .done rfl

/-- The route of a relation passes a fault on, but goes on in the same way whichever it is. -/
theorem discreet_related (field : Field) : (v.related owner field).run.Discreet Akin (v.related owner field).run := by
  unfold related
  split
  · exact .done (.error _ _)
  · split
    · exact .done (.error _ _)
    · unfold relatedIn
      split
      · exact Engine.discreet_bind (owner.discreet_partner _ v.headers _) fun entity => Engine.discreet_pure _
      · exact Engine.discreet_bind (owner.discreet_owned _ v.headers) fun entities => Engine.discreet_pure _

end Lookups

/-! ## Reports -/

/-- A record that was asked for is shown without regard to faults. -/
theorem discreet_showPrimary (r : Record) : (v.showPrimary r).Discreet Eq (v.showPrimary r) :=
  (v.discreet_lookups r true).bind_eq fun _ => .done rfl

/-- A linked record is shown without regard to faults. -/
theorem discreet_showLinked (r : Record) : (v.showLinked r).Discreet Eq (v.showLinked r) :=
  (v.discreet_lookups r false).bind_eq fun _ => .done rfl

/-- The linked records at the end of a report are shown without regard to faults. -/
theorem discreet_finish (primary : Primary) (linked : LinkedRecords) :
    (v.finish primary linked).Discreet Eq (v.finish primary linked) := by
  have each : ∀ r ∈ linked.records, (v.showLinked r).Discreet Eq (v.showLinked r) := fun r _ => v.discreet_showLinked r
  exact (Plan.Discreet.forEach each).bind_eq fun _ => .done rfl

/-- A report on one record does not depend on how lookups fail. -/
theorem discreet_reportOf (r : Record) : (v.reportOf r).Discreet Eq (v.reportOf r) :=
  (v.discreet_showPrimary r).bind_eq fun _ => v.discreet_finish _ _

/-- A report on a list of records does not depend on how lookups fail. -/
theorem discreet_reportOfAll (records : List Record) :
    (v.reportOfAll records).Discreet Eq (v.reportOfAll records) := by
  have each : ∀ r ∈ records, (v.showPrimary r).Discreet Eq (v.showPrimary r) := fun r _ => v.discreet_showPrimary r
  exact (Plan.Discreet.forEach each).bind_eq fun _ => v.discreet_finish _ _

/-- A report on what a relation leads to does not depend on how lookups fail. -/
theorem discreet_reportOfRelatives (relatives : Relatives) :
    (v.reportOfRelatives relatives).Discreet Eq (v.reportOfRelatives relatives) := by
  cases relatives with
  | one record =>
    cases record with
    | none => exact .done rfl
    | some r => exact v.discreet_reportOf r
  | many records => exact v.discreet_reportOfAll records

end Viewpoint

end ResourceApi

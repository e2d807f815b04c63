import ResourceApi.Proofs.Document.LinkedRecords
import ResourceApi.Proofs.Document.Showing
import ResourceApi.Proofs.Plan.History

/-!
# Where owners come from

Relations are only looked up for records that came with an answer before (`Viewpoint.Knows`). The request for it has
nothing of the client's but the header fields (`Request.Looks`): it is for all entities of the target type, or for those
that one parameter narrows to the id of the owner. `Viewpoint.Follows` says which calls these are, by the exchanges before
them. All calls of a report and of the route of a relation are of this kind, whatever the data sources answer, and the
records that they lead to are known afterwards, so that the next ones may start from them
(`Viewpoint.heeds_reportOfRelatives`, `Viewpoint.heeds_related`).
-/

namespace ResourceApi

/-! ## What answers hold -/

/-- The entities in an answer of a controller. -/
def Hook.entities : (hook : Hook) → hook.Replacement → List Entity
  | list, answer => answer
  | fetch _, answer => [answer]
  | create _, answer => [answer]
  | update _, _ | delete _, _ => []

/-- The entities in the answer to a call. -/
def Call.entities : (call : Call) → call.Result → List Entity
  | list _ _, answer => answer
  | fetch _ _ _, answer => [answer]
  | fetchMany _ _ _, answer => answer
  | create _ _, _ | update _ _, _ | delete _ _, _ => []
  | consult _ _ hook, verdict =>
    match verdict with
    | .replace answer => hook.entities answer
    | .proceed => []

/-- The entities that came with a reply; a fault brings none. -/
def Exchange.entities (e : Exchange) : List Entity :=
  match e.reply with
  | .ok answer => e.call.entities answer
  | .error _ => []

/-- A request for entities of a type that has nothing of the client's request but its header fields. -/
structure Request.Looks (request : Request) (type : String) (headers : Headers)
    (parameters : List (String × List String)) : Prop where
  method : request.method = .get
  resource : request.resource = type
  ids : request.ids = []
  relation : request.relation = none
  query : request.query.toList = parameters
  headers : request.headers = headers
  body : request.body = []

/-- A relation with a key leads to one entity. -/
theorem Field.kind_eq_of_key? {field : Field} {type key : String} (leads : field.target? = some type)
    (held : field.key? = some key) : field.kind = .toOne type key := by
  obtain ⟨name, kind⟩ := field
  cases kind with
  | scalar | nullable => cases leads
  | toOne own ownKey =>
    cases leads
    cases held
    rfl
  | toMany own => cases held

namespace Record

/-- The request for an entity that is referred to has no parameters. -/
theorem looks_referenceRequest (target : Schema) (headers : Headers) :
    (referenceRequest target headers).Looks target.typeName headers [] where
  method := rfl
  resource := rfl
  ids := rfl
  relation := rfl
  query := rfl
  headers := rfl
  body := rfl

/-- The one parameter has one value, whatever the id is. -/
theorem looks_ownedRequest (owner : Record) (target : Schema) (headers : Headers) :
    (owner.ownedRequest target headers).Looks target.typeName headers
      [(owner.schema.typeName ++ "ID", [owner.entity.id])] where
  method := rfl
  resource := rfl
  ids := rfl
  relation := rfl
  query := rfl
  headers := rfl
  body := rfl

end Record

/-! ## Which calls look relations up -/

namespace Viewpoint

/-- A record is of a type that is served, and its entity came with an answer from this type. -/
structure Knows (v : Viewpoint) (past : List Exchange) (r : Record) : Prop where
  served : v.Serves r
  answered : ∃ e ∈ past, e.call.type = r.schema.typeName ∧ r.entity ∈ e.entities

/-- A call looks up a relation that the schema of a known record declares, in the type that the relation leads to. -/
inductive Follows (v : Viewpoint) (past : List Exchange) : Call → Prop
  /-- A relation to one is looked up by the id that its key holds. -/
  | refer {owner : Record} {field : Field} {type key id : String} {request : Request} (known : v.Knows past owner)
    (declared : field ∈ owner.schema.relations) (leads : field.kind = .toOne type key)
    (served : (v.catalogue.schema? type).isSome = true) (reference : owner.entity.reference? key = some id)
    (looks : request.Looks type v.headers []) : Follows v past (.fetch type id request)
  /-- A relation is looked up by the id of the owner. -/
  | own {owner : Record} {field : Field} {type : String} {request : Request} (known : v.Knows past owner)
    (declared : field ∈ owner.schema.relations) (leads : field.target? = some type)
    (served : (v.catalogue.schema? type).isSome = true)
    (looks : request.Looks type v.headers [(owner.schema.typeName ++ "ID", [owner.entity.id])]) :
    Follows v past (.list type request)

variable {v : Viewpoint} {past : List Exchange}

/-- What is known stays known. -/
theorem Knows.later {r : Record} (h : v.Knows past r) (later : List Exchange) : v.Knows (past ++ later) r := by
  obtain ⟨served, e, among, type, answered⟩ := h
  exact ⟨served, e, List.mem_append_left _ among, type, answered⟩

/-- An entity that came with the last answer is known, as a record of the type that was asked. -/
theorem knows_of_answer {target : Schema} {call : Call} {answer : call.Result} {entity : Entity}
    (served : v.catalogue.schema? call.type = some target) (h : entity ∈ call.entities answer) :
    v.Knows (past ++ [⟨call, .ok answer⟩]) ⟨target, entity⟩ := by
  have name : target.typeName = call.type := Catalogue.typeName_of_schema? served
  refine ⟨v.serves_of_schema? served entity, ⟨call, .ok answer⟩, ?_, name.symm, h⟩
  exact List.mem_append_right _ (List.mem_singleton_self _)

/-! ## The ways to related entities -/

section Ways

variable {owner : Record} {field : Field} {target : Schema} (known : v.Knows past owner)
  (declared : field ∈ owner.schema.relations) (served : v.catalogue.schema? target.typeName = some target)

include known declared served

/-- All entities that are found to name a known record are known. -/
theorem heeds_owned (leads : field.target? = some target.typeName) :
    Engine.Heeds v.Follows (fun past entities => ∀ e ∈ entities, v.Knows past ⟨target, e⟩) past
      (owner.owned target v.headers) := by
  have looks := owner.looks_ownedRequest target v.headers
  refine Engine.heeds_call (.own known declared leads (Option.isSome_of_eq_some served) looks) ?_
  intro entities e among
  exact knows_of_answer served among

/-- The entity that a known record refers to is known, whether it is found under its id or among those that name the record. -/
theorem heeds_referenced {key id : String} (leads : field.kind = .toOne target.typeName key)
    (reference : owner.entity.reference? key = some id) :
    Engine.Heeds v.Follows (fun past found => ∀ e ∈ found, v.Knows past ⟨target, e⟩) past
      (owner.referenced target v.headers id) := by
  have target? : field.target? = some target.typeName := by rw [Field.target?, leads]
  have fetched : Engine.Heeds v.Follows (fun past entity => v.Knows past ⟨target, entity⟩) past
      (Engine.fetch target.typeName id (Record.referenceRequest target v.headers)) := by
    have looks := Record.looks_referenceRequest target v.headers
    refine Engine.heeds_call (.refer known declared leads (Option.isSome_of_eq_some served) reference looks) ?_
    intro entity
    exact knows_of_answer served (List.mem_singleton_self entity)
  refine Plan.Heeds.bind fetched fun later reply told => ?_
  cases reply with
  | ok entity =>
    intro found same e among
    obtain rfl : some entity = found := Except.ok.inj same
    obtain rfl : entity = e := Option.some.inj among
    exact told entity rfl
  | error fault =>
    refine Plan.Heeds.bind (heeds_owned (known.later later) declared served target?) fun later' reply told => ?_
    cases reply with
    | error other =>
      intro found same
      cases same
    | ok entities =>
      intro found same e among
      obtain rfl := Except.ok.inj same
      exact told entities rfl e (List.mem_of_find?_eq_some among)

/-- The entity that belongs to a known record by a key is known. -/
theorem heeds_partner {key : String} (leads : field.kind = .toOne target.typeName key) :
    Engine.Heeds v.Follows (fun past found => ∀ e ∈ found, v.Knows past ⟨target, e⟩) past
      (owner.partner target v.headers key) := by
  have target? : field.target? = some target.typeName := by rw [Field.target?, leads]
  unfold Record.partner
  split
  · next id reference => exact heeds_referenced known declared served leads reference
  · refine Engine.heeds_bind (heeds_owned known declared served target?) fun later entities told => ?_
    refine Engine.heeds_pure fun e among => ?_
    split at among
    · next entity =>
      obtain rfl : entity = e := Option.some.inj among
      exact told entity (List.mem_singleton_self entity)
    · cases among

/-- The record that a reference of a known record leads to is known. -/
theorem heeds_follow {key id : String} (leads : field.kind = .toOne target.typeName key)
    (reference : owner.entity.reference? key = some id) :
    (v.follow owner target id).Heeds v.Follows (fun past found => ∀ r ∈ found, v.Knows past r) past := by
  refine Plan.Heeds.bind (heeds_referenced known declared served leads reference) fun later reply told => ?_
  split
  · next entity => exact List.forall_mem_singleton.2 (told _ rfl entity rfl)
  · exact List.forall_mem_nil _

/-- The records that name a known record as their owner are known. -/
theorem heeds_gather (leads : field.target? = some target.typeName) :
    (v.gather owner target).Heeds v.Follows (fun past found => ∀ r ∈ found, v.Knows past r) past := by
  refine Plan.Heeds.bind (heeds_owned known declared served leads) fun later reply told => ?_
  cases reply with
  | ok entities => exact List.forall_mem_map.2 (told entities rfl)
  | error fault => exact List.forall_mem_nil _

end Ways

/-! ## Lookups and reports -/

section Lookups

variable {owner : Record} (known : v.Knows past owner)

include known

/-- A relation to one that the schema of a known record declares leads to known records. -/
theorem heeds_foundOne {name type key : String} (declared : ⟨name, .toOne type key⟩ ∈ owner.schema.relations)
    (sideLoad : Bool) :
    (v.foundOne owner sideLoad type key).Heeds v.Follows (fun past found => ∀ r ∈ found, v.Knows past r) past := by
  unfold foundOne
  split
  · next id target reference served =>
    obtain rfl : target.typeName = type := Catalogue.typeName_of_schema? served
    exact heeds_follow known declared served rfl reference
  · exact List.forall_mem_nil _

/-- A relation to many that the schema of a known record declares leads to known records. -/
theorem heeds_foundMany {name type : String} (declared : ⟨name, .toMany type⟩ ∈ owner.schema.relations) :
    (v.foundMany owner type).Heeds v.Follows (fun past found => ∀ r ∈ found, v.Knows past r) past := by
  unfold foundMany
  split
  · next target served =>
    obtain rfl : target.typeName = type := Catalogue.typeName_of_schema? served
    exact heeds_gather known declared served rfl
  · exact List.forall_mem_nil _

/-- What comes of looking up a relation of a known record holds known records only. -/
theorem heeds_lookup {field : Field} (declared : field ∈ owner.schema.relations) (sideLoad : Bool) :
    (v.lookup owner sideLoad field).Heeds v.Follows (fun past found => ∀ l ∈ found, ∀ r ∈ l.found, v.Knows past r)
      past := by
  obtain ⟨name, kind⟩ := field
  cases kind with
  | scalar => exact nofun
  | nullable => exact nofun
  | toOne type key =>
    have looked : (v.lookupOne owner sideLoad name type key).Heeds v.Follows
        (fun past l => ∀ r ∈ l.found, v.Knows past r) past :=
      (heeds_foundOne known declared sideLoad).bind fun later found told => told
    refine looked.map fun later l told l' same => ?_
    exact Option.some.inj same ▸ told
  | toMany type =>
    have looked : (v.lookupMany owner name type).Heeds v.Follows
        (fun past l => ∀ r ∈ l.found, v.Knows past r) past :=
      (heeds_foundMany known declared).bind fun later found told => told
    refine looked.map fun later l told l' same => ?_
    exact Option.some.inj same ▸ told

/-- What comes of looking up all relations of a known record holds known records only. Those of one relation are still known
when the next is looked up. -/
theorem heeds_lookups (sideLoad : Bool) :
    (v.lookups owner sideLoad).Heeds v.Follows (fun past lookups => ∀ r ∈ Lookup.records lookups, v.Knows past r)
      past := by
  have each : ∀ field ∈ owner.schema.relations, ∀ later, (v.lookup owner sideLoad field).Heeds v.Follows
      (fun past found => ∀ l ∈ found, ∀ r ∈ l.found, v.Knows past r) (past ++ later) :=
    fun field declared later => heeds_lookup (known.later later) declared sideLoad
  refine (Plan.Heeds.forEach ?_ each).bind fun later found told r among => ?_
  · intro past later found told l hl r hr
    exact (told l hl r hr).later later
  · obtain ⟨l, hl, hr⟩ := List.mem_flatMap.1 among
    exact told (some l) (by simpa using hl) l rfl r hr

/-- A known record that was asked for is shown together with known records. -/
theorem heeds_showPrimary :
    (v.showPrimary owner).Heeds v.Follows (fun past shown => ∀ r ∈ shown.2, v.Knows past r) past :=
  (heeds_lookups known true).bind fun _ _ told => told

/-- A known record that is linked is shown by calls that look up its own relations. -/
theorem heeds_showLinked : (v.showLinked owner).Heeds v.Follows (fun _ _ => True) past :=
  (heeds_lookups known false).bind fun _ _ _ => trivial

/-- The route of a relation of a known record leads to known records. -/
theorem heeds_related {field : Field} (declared : field ∈ owner.schema.relations) :
    Engine.Heeds v.Follows (fun past relatives => ∀ r ∈ relatives.records, v.Knows past r) past
      (v.related owner field) := by
  unfold related
  split
  · exact Engine.heeds_refuse _
  · next type leads =>
    split
    · exact Engine.heeds_refuse _
    · next target served =>
      obtain rfl : target.typeName = type := Catalogue.typeName_of_schema? served
      unfold relatedIn
      split
      · next key held =>
        have kind := Field.kind_eq_of_key? leads held
        refine Engine.heeds_bind (heeds_partner known declared served kind) fun later found told => ?_
        refine Engine.heeds_pure fun r among => ?_
        obtain ⟨e, hfound, rfl⟩ := Option.map_eq_some_iff.1 (Option.mem_toList.1 among)
        exact told e hfound
      · refine Engine.heeds_bind (heeds_owned known declared served leads) fun later found told => ?_
        exact Engine.heeds_pure (List.forall_mem_map.2 told)

end Lookups

/-- A report shows known records, and looks up what they lead to and then what links this has. -/
theorem heeds_finish (primary : Primary) {linked : LinkedRecords} (known : ∀ r ∈ linked.records, v.Knows past r) :
    (v.finish primary linked).Heeds v.Follows (fun _ _ => True) past := by
  have each : ∀ r ∈ linked.records, ∀ later, (v.showLinked r).Heeds v.Follows (fun _ _ => True) (past ++ later) :=
    fun r hr later => heeds_showLinked ((known r hr).later later)
  exact (Plan.Heeds.forEach (fun _ _ _ _ => trivial) each).bind fun _ _ _ => trivial

/-- The calls for a report on a known record all look up relations of known records. -/
theorem heeds_reportOf {r : Record} (known : v.Knows past r) :
    (v.reportOf r).Heeds v.Follows (fun _ _ => True) past := by
  refine (heeds_showPrimary known).bind fun later shown told => heeds_finish _ fun r hr => ?_
  exact told r ((LinkedRecords.mem_records_insertAll hr).resolve_left List.not_mem_nil)

/-- The calls for a report on known records all look up relations of known records. -/
theorem heeds_reportOfAll {records : List Record} (known : ∀ r ∈ records, v.Knows past r) :
    (v.reportOfAll records).Heeds v.Follows (fun _ _ => True) past := by
  have each : ∀ r ∈ records, ∀ later, (v.showPrimary r).Heeds v.Follows
      (fun past shown => ∀ r ∈ shown.2, v.Knows past r) (past ++ later) :=
    fun r hr later => heeds_showPrimary ((known r hr).later later)
  refine (Plan.Heeds.forEach ?_ each).bind fun later shown told => heeds_finish _ fun r hr => ?_
  · intro past later shown told r hr
    exact (told r hr).later later
  · have among := (LinkedRecords.mem_records_insertAll hr).resolve_left List.not_mem_nil
    obtain ⟨s, hs, found⟩ := List.mem_flatMap.1 among
    exact told s hs r found

/-- The calls for a report on what a relation leads to all look up relations of known records, if those it leads to are
known. -/
theorem heeds_reportOfRelatives {relatives : Relatives} (known : ∀ r ∈ relatives.records, v.Knows past r) :
    (v.reportOfRelatives relatives).Heeds v.Follows (fun _ _ => True) past := by
  cases relatives with
  | one record =>
    cases record with
    | none => trivial
    | some r => exact heeds_reportOf (known r (List.mem_singleton_self r))
  | many records => exact heeds_reportOfAll known

end Viewpoint

end ResourceApi

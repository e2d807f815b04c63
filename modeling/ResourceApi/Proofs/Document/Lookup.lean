import ResourceApi.Proofs.Data.SortedMap
import ResourceApi.Proofs.Registry.Steady

/-!
# What looking relations up comes to

One statement for each step of a lookup: the calls it keeps to (`Call.LooksUp`), and the value that the replies lead to.
The main one is `Viewpoint.comesTo_lookup`: a lookup for a document finds what the route of the relation leads to, unless
the route fails or the relation is one whose key is empty (`Viewpoint.neighboursBy`). The links of a record hold the link
of each relation under its name (`Lookup.get?_links`).
-/

namespace ResourceApi

variable {α : Type}

/-- The calls by which relations are looked up. They have nothing of the client's request but its header fields. -/
inductive Call.LooksUp (headers : Headers) : Call → Prop
  | refer (target : Schema) (id : String) :
    LooksUp headers (.fetch target.typeName id (Record.referenceRequest target headers))
  | own (owner : Record) (target : Schema) :
    LooksUp headers (.list target.typeName (owner.ownedRequest target headers))

/-- To look a relation up is to read. -/
theorem Call.LooksUp.reads {headers : Headers} {call : Call} (h : call.LooksUp headers) : call.Reads := by
  cases h <;> trivial

/-! ## Calls -/

namespace Record

variable (owner : Record) (target : Schema) (headers : Headers)

/-- The entities that name a record are asked for by looking up its relation. -/
theorem within_owned : (owner.owned target headers).run.Within (Call.LooksUp headers) :=
  ⟨.own owner target, fun _ => trivial⟩

/-- Both ways to what a record refers to only look relations up. -/
theorem within_referenced (id : String) : (owner.referenced target headers id).run.Within (Call.LooksUp headers) := by
  refine ⟨.refer target id, fun reply => ?_⟩
  cases reply with
  | ok entity => trivial
  | error fault =>
    refine (within_owned owner target headers).bind fun reply' => ?_
    cases reply' <;> trivial

/-- Finding the entity that belongs to a record by a key only looks relations up. -/
theorem within_partner (key : String) : (owner.partner target headers key).run.Within (Call.LooksUp headers) := by
  unfold partner
  split
  · exact within_referenced owner target headers _
  · refine (within_owned owner target headers).bind fun reply => ?_
    cases reply <;> trivial

end Record

namespace Viewpoint

variable (v : Viewpoint) (owner : Record)

/-- Following a reference only looks relations up. -/
theorem within_follow (target : Schema) (id : String) : (v.follow owner target id).Within (Call.LooksUp v.headers) := by
  refine (owner.within_referenced target v.headers id).bind fun reply => ?_
  split <;> trivial

/-- Gathering the records that name an owner only looks relations up. -/
theorem within_gather (target : Schema) : (v.gather owner target).Within (Call.LooksUp v.headers) := by
  refine (owner.within_owned target v.headers).bind fun reply => ?_
  cases reply <;> trivial

/-- Looking up a field for a document makes no other calls than these. -/
theorem within_lookup (sideLoad : Bool) (field : Field) :
    (v.lookup owner sideLoad field).Within (Call.LooksUp v.headers) := by
  unfold lookup
  split
  · trivial
  · trivial
  · refine Plan.Within.map _ (Plan.Within.bind ?_ fun _ => Plan.within_pure _)
    unfold foundOne
    split
    · exact within_follow v owner _ _
    · trivial
  · refine Plan.Within.map _ (Plan.Within.bind ?_ fun _ => Plan.within_pure _)
    unfold foundMany
    split
    · exact within_gather v owner _
    · trivial

/-- Looking up all fields of a record makes no other calls than these. -/
theorem within_lookups (sideLoad : Bool) : (v.lookups owner sideLoad).Within (Call.LooksUp v.headers) :=
  (Plan.Within.forEach fun field _ => within_lookup v owner sideLoad field).bind fun _ => Plan.within_pure _

/-- The route of a relation makes no other calls than these. -/
theorem within_related (field : Field) : (v.related owner field).run.Within (Call.LooksUp v.headers) := by
  unfold related
  split
  · trivial
  · split
    · trivial
    · unfold relatedIn
      split
      · refine (owner.within_partner _ v.headers _).bind fun reply => ?_
        cases reply <;> trivial
      · refine (owner.within_owned _ v.headers).bind fun reply => ?_
        cases reply <;> trivial

end Viewpoint

/-! ## Values -/

/-- The records that a relation leads to. -/
def Relatives.records : Relatives → List Record
  | .one record => record.toList
  | .many records => records

/-- The records that the route of a relation leads to; a route that fails leads to none. -/
def Relatives.found : Except Fault Relatives → List Record
  | .ok relatives => relatives.records
  | .error _ => []

/-- The entities that name a record are those that the data source of their type lists. -/
theorem Record.comesTo_owned (replies : Replies) (owner : Record) (target : Schema) (headers : Headers) :
    (owner.owned target headers).run.comesTo replies =
      replies (.list target.typeName (owner.ownedRequest target headers)) :=
  rfl

/-- A reference leads to what is found under its id, or else to the first of that id among those that name the record. If
both ways fail, the fault of the first counts. -/
theorem Record.comesTo_referenced (replies : Replies) (owner : Record) (target : Schema) (headers : Headers)
    (id : String) :
    (owner.referenced target headers id).run.comesTo replies =
      match replies (.fetch target.typeName id (referenceRequest target headers)) with
      | .ok entity => .ok (some entity)
      | .error fault =>
        match replies (.list target.typeName (owner.ownedRequest target headers)) with
        | .ok entities => .ok (entities.find? fun e => e.id == id)
        | .error _ => .error fault := by
  have fetched : (Engine.fetch target.typeName id (referenceRequest target headers)).run.comesTo replies =
      replies (.fetch target.typeName id (referenceRequest target headers)) := rfl
  simp only [referenced, ExceptT.run_mk, Plan.comesTo_bind, fetched]
  cases replies (.fetch target.typeName id (referenceRequest target headers)) with
  | ok entity => rfl
  | error fault =>
    simp only [Plan.comesTo_bind, comesTo_owned]
    cases replies (.list target.typeName (owner.ownedRequest target headers)) <;> rfl

/-- Whether a document follows a relation of a record: one to many always, and one to one if its key holds an id. -/
def Record.follows (owner : Record) (field : Field) : Bool :=
  match field.key? with
  | some key => (owner.entity.reference? key).isSome
  | none => true

namespace Viewpoint

variable (v : Viewpoint) (replies : Replies) (owner : Record)

/-- A relation to one is linked by the id that its key holds, whatever is found. -/
theorem comesTo_lookup_toOne (sideLoad : Bool) (name target key : String) :
    (v.lookup owner sideLoad ⟨name, .toOne target key⟩).comesTo replies =
      some {
        name := name
        link := { id := owner.entity.reference? key, type := target, resource := v.relationPath owner name }
        found := (v.foundOne owner sideLoad target key).comesTo replies } := by
  simp only [lookup, lookupOne, Plan.comesTo_map, Plan.comesTo_bind, Plan.comesTo_pure]

/-- A relation to many is linked by the ids of the records that are found. -/
theorem comesTo_lookup_toMany (sideLoad : Bool) (name target : String) :
    (v.lookup owner sideLoad ⟨name, .toMany target⟩).comesTo replies =
      let found := (v.foundMany owner target).comesTo replies
      some {
        name := name
        link := {
          ids := some (found.map fun r => r.entity.id), type := target, resource := v.relationPath owner name }
        found := found } := by
  simp only [lookup, lookupMany, Plan.comesTo_map, Plan.comesTo_bind, Plan.comesTo_pure]

/-- The route of a relation to many leads to the entities that name the owner. -/
theorem comesTo_related_toMany (name target : String) :
    (v.related owner ⟨name, .toMany target⟩).run.comesTo replies =
      match v.catalogue.schema? target with
      | none => .error (Refusal.unknownType target).fault
      | some schema =>
        (replies (.list schema.typeName (owner.ownedRequest schema v.headers))).map fun entities =>
          .many (entities.map (⟨schema, ·⟩)) := by
  unfold related
  cases h : v.catalogue.schema? target with
  | none => simp only [Field.target?, h]; rfl
  | some schema =>
    simp only [Field.target?, Field.key?, h, relatedIn, Engine.comesTo_run_bind, Record.comesTo_owned]
    cases replies (.list schema.typeName (owner.ownedRequest schema v.headers)) <;> rfl

/-- The route of a relation to one leads to the partner of the owner. -/
theorem comesTo_related_toOne (name target key : String) :
    (v.related owner ⟨name, .toOne target key⟩).run.comesTo replies =
      match v.catalogue.schema? target with
      | none => .error (Refusal.unknownType target).fault
      | some schema =>
        ((owner.partner schema v.headers key).run.comesTo replies).map fun entity =>
          .one (entity.map (⟨schema, ·⟩)) := by
  unfold related
  cases h : v.catalogue.schema? target with
  | none => simp only [Field.target?, h]; rfl
  | some schema =>
    simp only [Field.target?, Field.key?, h, relatedIn, Engine.comesTo_run_bind]
    cases (owner.partner schema v.headers key).run.comesTo replies <;> rfl

/-- For a document, a relation to many finds what its route leads to. -/
theorem comesTo_foundMany (name target : String) :
    (v.foundMany owner target).comesTo replies =
      Relatives.found ((v.related owner ⟨name, .toMany target⟩).run.comesTo replies) := by
  rw [comesTo_related_toMany]
  unfold foundMany
  cases v.catalogue.schema? target with
  | none => rfl
  | some schema =>
    simp only [gather, Plan.comesTo_bind, Record.comesTo_owned]
    cases replies (.list schema.typeName (owner.ownedRequest schema v.headers)) <;> rfl

/-- For a document, a relation to one whose key holds an id finds what its route leads to. -/
theorem comesTo_foundOne_of_some (name target key : String) {id : String} (h : owner.entity.reference? key = some id) :
    (v.foundOne owner true target key).comesTo replies =
      Relatives.found ((v.related owner ⟨name, .toOne target key⟩).run.comesTo replies) := by
  rw [comesTo_related_toOne]
  simp only [foundOne, Record.partner, h]
  cases v.catalogue.schema? target with
  | none => rfl
  | some schema =>
    simp only [follow, Plan.comesTo_bind]
    cases (owner.referenced schema v.headers id).run.comesTo replies with
    | error fault => rfl
    | ok entity => cases entity <;> rfl

/-- A relation to one whose key holds no id finds nothing for a document. -/
theorem comesTo_foundOne_of_none (sideLoad : Bool) (target key : String) (h : owner.entity.reference? key = none) :
    (v.foundOne owner sideLoad target key).comesTo replies = [] := by
  simp only [foundOne, h]
  rfl

/-- The link of a relation of a record, given the records that the relation leads to. -/
def linkOf (field : Field) (found : List Record) : Link where
  id := field.key?.bind owner.entity.reference?
  ids := if field.key?.isSome then none else some (found.map fun r => r.entity.id)
  type := field.target?.getD ""
  resource := v.relationPath owner field.name

/-- The records that a document finds for a relation of a record: those that its route leads to, if it is followed. -/
def neighboursBy (field : Field) : List Record :=
  if owner.follows field then Relatives.found ((v.related owner field).run.comesTo replies) else []

/-- A relation that is followed leads a document where its route leads. -/
theorem neighboursBy_of_follows {field : Field} (follows : owner.follows field = true) {answer : Except Fault Relatives}
    (h : (v.related owner field).run.comesTo replies = answer) :
    v.neighboursBy replies owner field = Relatives.found answer := by
  rw [neighboursBy, if_pos follows, h]

/-- A relation that is not followed leads a document nowhere. -/
theorem neighboursBy_of_not_follows {field : Field} (follows : owner.follows field = false) :
    v.neighboursBy replies owner field = [] := by
  rw [neighboursBy, if_neg (Bool.eq_false_iff.1 follows)]

/-- What looking up a relation of a record comes to. Without the records that come with a document, a relation to one
is not followed; its link is the same. -/
def lookedUp (sideLoad : Bool) (field : Field) : Lookup where
  name := field.name
  link := v.linkOf owner field (v.neighboursBy replies owner field)
  found := if sideLoad || field.key?.isNone then v.neighboursBy replies owner field else []

/-- For a document, a relation to one finds what its route leads to, if its key holds an id. -/
theorem comesTo_foundOne (sideLoad : Bool) (name target key : String) :
    (v.foundOne owner sideLoad target key).comesTo replies =
      if sideLoad then v.neighboursBy replies owner ⟨name, .toOne target key⟩ else [] := by
  unfold neighboursBy Record.follows
  cases href : owner.entity.reference? key with
  | none =>
    rw [comesTo_foundOne_of_none v replies owner sideLoad target key href]
    simp [Field.key?, href]
  | some id =>
    cases sideLoad with
    | true =>
      rw [comesTo_foundOne_of_some v replies owner name target key href]
      simp [Field.key?, href]
    | false =>
      unfold foundOne
      simp

/-- Looking up a relation for a document finds what the route of the relation leads to. -/
theorem comesTo_lookup (sideLoad : Bool) {field : Field} (h : field.isRelation = true) :
    (v.lookup owner sideLoad field).comesTo replies = some (v.lookedUp replies owner sideLoad field) := by
  obtain ⟨name, kind⟩ := field
  cases kind with
  | scalar => cases h
  | nullable => cases h
  | toOne target key =>
    rw [comesTo_lookup_toOne, comesTo_foundOne v replies owner sideLoad name]
    simp [lookedUp, linkOf, Field.key?, Field.target?]
  | toMany target =>
    rw [comesTo_lookup_toMany, comesTo_foundMany v replies owner name]
    simp [lookedUp, linkOf, neighboursBy, Record.follows, Field.key?, Field.target?]

/-- All relations of a record are looked up, each once and in the order of their declaration. -/
theorem comesTo_lookups (sideLoad : Bool) :
    (v.lookups owner sideLoad).comesTo replies =
      owner.schema.relations.map (v.lookedUp replies owner sideLoad) := by
  have each : ∀ field ∈ owner.schema.relations,
      (v.lookup owner sideLoad field).comesTo replies = some (v.lookedUp replies owner sideLoad field) :=
    fun field h => comesTo_lookup v replies owner sideLoad (List.mem_filter.1 h).2
  simp only [lookups, Plan.comesTo_bind, Plan.comesTo_forEach, Plan.comesTo_pure]
  rw [List.map_congr_left each, List.filterMap_map]
  exact congrFun List.filterMap_eq_map _

end Viewpoint

/-! ## The links of a record -/

/-- The relations of a schema have distinct names. -/
theorem Schema.nodup_relations (s : Schema) : (s.relations.map Field.name).Nodup :=
  s.distinct.sublist (List.filter_sublist.map Field.name)

/-- A relation that is declared is found by its name. -/
theorem Schema.relation?_of_mem {s : Schema} {field : Field} (h : field ∈ s.relations) :
    s.relation? field.name = some field :=
  find?_of_nodup s.nodup_relations h

section

variable {owner : Record} {lookups : List Lookup} (names : lookups.map Lookup.name = owner.schema.relations.map Field.name)

include names

/-- No two links of a record have one name. -/
theorem Lookup.nodup_links : ((lookups.map fun l => (l.name, l.link)).map Prod.fst).Nodup := by
  rw [List.map_map]
  change (lookups.map Lookup.name).Nodup
  rw [names]
  exact owner.schema.nodup_relations

/-- The links of a record hold the link of each of its relations under the name of the relation. -/
theorem Lookup.get?_links {l : Lookup} (h : l ∈ lookups) : (Lookup.links lookups).get? l.name = some l.link :=
  SortedMap.get?_ofList_of_mem (Lookup.nodup_links names) (List.mem_map_of_mem h)

end

end ResourceApi

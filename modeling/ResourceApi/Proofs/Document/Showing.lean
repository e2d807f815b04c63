import ResourceApi.Proofs.Document.Report
import ResourceApi.Proofs.Plan.Parallel

/-!
# What reports show

Whatever the data sources reply, a report shows records of types that are served, each with one link for every relation of
its schema and no other links, and a link tells the path of its relation (`Viewpoint.gives_reportOf`,
`Viewpoint.gives_reportOfAll`). Failures and missing targets empty a link, but they do not take it away.
-/

namespace ResourceApi

/-- What was asked for and what comes with it. -/
def Report.shown (report : Report) : List Shown :=
  report.primary.shown ++ report.linked

namespace Viewpoint

/-- A record is of a type that is served, by the schema by which it is served. -/
def Serves (v : Viewpoint) (r : Record) : Prop :=
  v.catalogue.schema? r.schema.typeName = some r.schema

/-- A lookup tells the path of its relation and finds records of types that are served. -/
def Finds (v : Viewpoint) (owner : Record) (l : Lookup) : Prop :=
  l.link.resource = v.relationPath owner l.name ∧ ∀ r ∈ l.found, v.Serves r

/-- The relations of a record were looked up, each once and in order. -/
structure LookedUp (v : Viewpoint) (owner : Record) (lookups : List Lookup) : Prop where
  names : lookups.map Lookup.name = owner.schema.relations.map Field.name
  finds : ∀ l ∈ lookups, v.Finds owner l

/-- A record is shown with a link for each of its relations, which tells the path of the relation, and with no other. -/
structure Shows (v : Viewpoint) (shown : Shown) : Prop where
  served : v.Serves shown.record
  linked : ∀ field ∈ shown.record.schema.relations, ∃ link, shown.links.get? field.name = some link ∧
    link.resource = v.relationPath shown.record field.name
  only : ∀ name link, shown.links.get? name = some link → ∃ field ∈ shown.record.schema.relations, field.name = name

variable (v : Viewpoint)

/-- Every entity of a type that is served makes a record that is served. -/
theorem serves_of_schema? {type : String} {schema : Schema} (h : v.catalogue.schema? type = some schema)
    (entity : Entity) : v.Serves ⟨schema, entity⟩ := by
  have name : schema.typeName = type := Catalogue.typeName_of_schema? h
  unfold Serves
  rw [name]
  exact h

/-! ## Lookups -/

section Lookups

variable (owner : Record)

/-- For a document, a relation to one finds records of types that are served. -/
theorem gives_foundOne (sideLoad : Bool) (target key : String) :
    (v.foundOne owner sideLoad target key).Gives fun found => ∀ r ∈ found, v.Serves r := by
  unfold foundOne
  split
  · next id schema _ served =>
    refine Plan.gives_bind fun result => ?_
    split
    · exact List.forall_mem_singleton.2 (v.serves_of_schema? served _)
    · exact List.forall_mem_nil _
  · exact List.forall_mem_nil _

/-- For a document, a relation to many finds records of types that are served. -/
theorem gives_foundMany (target : String) : (v.foundMany owner target).Gives fun found => ∀ r ∈ found, v.Serves r := by
  unfold foundMany
  split
  · next schema served =>
    refine Plan.gives_bind fun result => ?_
    cases result with
    | ok entities => exact List.forall_mem_map.2 fun entity _ => v.serves_of_schema? served entity
    | error fault => exact List.forall_mem_nil _
  · exact List.forall_mem_nil _

/-- Looking up a relation comes to a lookup of a kind if it does so for relations to one and for relations to many. -/
theorem gives_lookup_of {good : Lookup → Prop} (sideLoad : Bool) {field : Field} (relation : field.isRelation = true)
    (one : ∀ target key, field.kind = .toOne target key →
      (v.lookupOne owner sideLoad field.name target key).Gives fun l => l.name = field.name ∧ good l)
    (many : ∀ target, field.kind = .toMany target →
      (v.lookupMany owner field.name target).Gives fun l => l.name = field.name ∧ good l) :
    (v.lookup owner sideLoad field).Gives fun found => ∃ l, found = some l ∧ l.name = field.name ∧ good l := by
  obtain ⟨name, kind⟩ := field
  cases kind with
  | scalar => cases relation
  | nullable => cases relation
  | toOne target key => exact (one target key rfl).map fun l told => ⟨l, rfl, told⟩
  | toMany target => exact (many target rfl).map fun l told => ⟨l, rfl, told⟩

/-- Looking up a relation comes to its link, whether the data sources answer or fail. -/
theorem gives_lookup (sideLoad : Bool) {field : Field} (relation : field.isRelation = true) :
    (v.lookup owner sideLoad field).Gives fun found => ∃ l, found = some l ∧ l.name = field.name ∧ v.Finds owner l := by
  refine v.gives_lookup_of owner sideLoad relation (fun target key _ => ?_) fun target _ => ?_
  · exact (v.gives_foundOne owner sideLoad target key).bind fun found served => ⟨rfl, rfl, served⟩
  · exact (v.gives_foundMany owner target).bind fun found served => ⟨rfl, rfl, served⟩

/-- The lookups of a record are those of its relations, each once and in order, and of a kind if each of them is. -/
theorem gives_lookups_of {good : Lookup → Prop} (sideLoad : Bool)
    (each : ∀ field ∈ owner.schema.relations,
      (v.lookup owner sideLoad field).Gives fun found => ∃ l, found = some l ∧ l.name = field.name ∧ good l) :
    (v.lookups owner sideLoad).Gives fun lookups =>
      lookups.map Lookup.name = owner.schema.relations.map Field.name ∧ ∀ l ∈ lookups, good l := by
  have told : ∀ field ∈ owner.schema.relations, (v.lookup owner sideLoad field).Gives fun found =>
      found.map Lookup.name = some field.name ∧ ∀ l ∈ found, good l := by
    intro field declared
    refine (each field declared).mono ?_
    rintro _ ⟨l, rfl, name, held⟩
    exact ⟨congrArg some name, fun l' same => Option.some.inj same ▸ held⟩
  refine (Plan.Gives.forEach told).bind fun found told => ?_
  obtain ⟨names, all⟩ := told
  have held {l : Lookup} (h : l ∈ found.filterMap id) : good l := all (some l) (by simpa using h) l rfl
  refine ⟨?_, fun l h => held h⟩
  have kept := congrArg (List.filterMap id) names
  rw [List.filterMap_map, List.filterMap_map] at kept
  rw [List.map_filterMap]
  exact kept.trans (congrFun List.filterMap_eq_map _)

/-- Whatever the data sources answer, all relations of a record are looked up. -/
theorem gives_lookups (sideLoad : Bool) : (v.lookups owner sideLoad).Gives (v.LookedUp owner) :=
  (v.gives_lookups_of owner sideLoad fun _ declared =>
    v.gives_lookup owner sideLoad (List.mem_filter.1 declared).2).mono fun _ told => ⟨told.1, told.2⟩

/-- The links that come of lookups are those of the relations. -/
theorem LookedUp.get?_links {v : Viewpoint} {owner : Record} {lookups : List Lookup} (h : v.LookedUp owner lookups)
    {field : Field} (declared : field ∈ owner.schema.relations) :
    ∃ link, (Lookup.links lookups).get? field.name = some link ∧ link.resource = v.relationPath owner field.name := by
  have among : field.name ∈ lookups.map Lookup.name := h.names ▸ List.mem_map_of_mem declared
  obtain ⟨l, hl, name⟩ := List.mem_map.1 among
  rw [← name]
  exact ⟨l.link, Lookup.get?_links h.names hl, (h.finds l hl).1⟩

/-- A record is shown in full with the links that come of its lookups. -/
theorem LookedUp.shows {v : Viewpoint} {owner : Record} {lookups : List Lookup} (h : v.LookedUp owner lookups)
    (served : v.Serves owner) : v.Shows ⟨owner, Lookup.links lookups⟩ where
  served := served
  linked _ declared := h.get?_links declared
  only name link held := by
    obtain ⟨l, hl, same⟩ := List.mem_map.1 (SortedMap.mem_of_get?_ofList (Lookup.nodup_links h.names) held)
    obtain ⟨rfl, rfl⟩ := Prod.mk.inj same
    have among : l.name ∈ owner.schema.relations.map Field.name := h.names ▸ List.mem_map_of_mem hl
    exact List.mem_map.1 among

/-- The route of a relation leads to records of a type that is served. -/
theorem gives_related (field : Field) :
    (v.related owner field).run.Gives fun result =>
      ∀ relatives, result = .ok relatives → ∀ r ∈ relatives.records, v.Serves r := by
  unfold related
  split
  · exact nofun
  · split
    · exact nofun
    · next schema served =>
      unfold relatedIn
      split
      · refine Plan.gives_bind fun reply => ?_
        cases reply with
        | error fault => exact nofun
        | ok entity =>
          intro relatives same r hr
          obtain rfl := Except.ok.inj same
          obtain ⟨own, -, rfl⟩ := Option.map_eq_some_iff.1 (Option.mem_toList.1 hr)
          exact v.serves_of_schema? served own
      · refine Plan.gives_bind fun reply => ?_
        cases reply with
        | error fault => exact nofun
        | ok entities =>
          intro relatives same r hr
          obtain rfl := Except.ok.inj same
          obtain ⟨own, -, rfl⟩ := List.mem_map.1 hr
          exact v.serves_of_schema? served own

end Lookups

/-! ## Reports -/

/-- A record that was asked for is shown with all its links, and comes with records of types that are served. -/
theorem gives_showPrimary {r : Record} (served : v.Serves r) :
    (v.showPrimary r).Gives fun shown => v.Shows shown.1 ∧ ∀ found ∈ shown.2, v.Serves found :=
  (v.gives_lookups r true).bind fun lookups looked => by
    refine ⟨looked.shows served, fun found among => ?_⟩
    obtain ⟨l, hl, among⟩ := List.mem_flatMap.1 among
    exact (looked.finds l hl).2 found among

/-- A linked record is shown with all its links. -/
theorem gives_showLinked {r : Record} (served : v.Serves r) : (v.showLinked r).Gives v.Shows :=
  (v.gives_lookups r false).bind fun _ looked => looked.shows served

/-- A finished report shows all links of what it links, if what was asked for is shown so. -/
theorem gives_finish {primary : Primary} (shown : ∀ s ∈ primary.shown, v.Shows s) {linked : LinkedRecords}
    (served : ∀ r ∈ linked.records, v.Serves r) :
    (v.finish primary linked).Gives fun report => ∀ s ∈ report.shown, v.Shows s :=
  (Plan.Gives.forEach_mem fun r hr => v.gives_showLinked (served r hr)).bind fun more told => by
    refine fun s hs => ?_
    rcases List.mem_append.1 hs with first | later
    · exact shown s first
    · exact told s later

/-- A report of one record, of a type that is served, shows records of types that are served, with all their links. -/
theorem gives_reportOf {r : Record} (served : v.Serves r) :
    (v.reportOf r).Gives fun report => ∀ s ∈ report.shown, v.Shows s :=
  (v.gives_showPrimary served).bind fun shown told => by
    have asked : ∀ s ∈ (Primary.one shown.1).shown, v.Shows s := List.forall_mem_singleton.2 told.1
    refine v.gives_finish asked fun r hr => ?_
    exact told.2 r ((LinkedRecords.mem_records_insertAll hr).resolve_left List.not_mem_nil)

/-- So does a report of a list of records. -/
theorem gives_reportOfAll {records : List Record} (served : ∀ r ∈ records, v.Serves r) :
    (v.reportOfAll records).Gives fun report => ∀ s ∈ report.shown, v.Shows s :=
  (Plan.Gives.forEach_mem fun r hr => v.gives_showPrimary (served r hr)).bind fun shown told => by
    have asked : ∀ s ∈ (Primary.many (shown.map Prod.fst)).shown, v.Shows s :=
      List.forall_mem_map.2 fun s hs => (told s hs).1
    refine v.gives_finish asked fun r hr => ?_
    have among := (LinkedRecords.mem_records_insertAll hr).resolve_left List.not_mem_nil
    obtain ⟨s, hs, found⟩ := List.mem_flatMap.1 among
    exact (told s hs).2 r found

/-- So does a report of what a relation leads to. -/
theorem gives_reportOfRelatives {relatives : Relatives} (served : ∀ r ∈ relatives.records, v.Serves r) :
    (v.reportOfRelatives relatives).Gives fun report => ∀ s ∈ report.shown, v.Shows s := by
  cases relatives with
  | one record =>
    cases record with
    | none => exact List.forall_mem_nil _
    | some r => exact v.gives_reportOf (served r (List.mem_singleton_self r))
  | many records => exact v.gives_reportOfAll served

end Viewpoint

end ResourceApi

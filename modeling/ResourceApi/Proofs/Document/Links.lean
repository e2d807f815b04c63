import ResourceApi.Proofs.Document.Collecting
import ResourceApi.Proofs.Document.Lookup
import ResourceApi.Proofs.Registry.Table

/-!
# Links and the routes of relations

What a document tells of a relation, and what the route of the relation leads to, are worked out apart from each other:
the one turns every failure into an empty relation, the other passes failures on. They agree
(`links_agree_with_related`), whatever was linked before.
-/

namespace ResourceApi

variable {σ : Type}

namespace Viewpoint

variable (v : Viewpoint) (replies : Replies) (owner : Record)

/-- What the route of a relation to many leads to are all records of the target type. -/
theorem related_toMany_cases (name target : String) :
    (∃ records, (v.related owner ⟨name, .toMany target⟩).run.comesTo replies = .ok (.many records) ∧
        ∀ r ∈ records, r.schema.typeName = target) ∨
      ∃ fault, (v.related owner ⟨name, .toMany target⟩).run.comesTo replies = .error fault := by
  rw [comesTo_related_toMany]
  cases h : v.catalogue.schema? target with
  | none => exact .inr ⟨_, rfl⟩
  | some schema =>
    simp only
    cases replies (.list schema.typeName (owner.ownedRequest schema v.headers)) with
    | error fault => exact .inr ⟨fault, rfl⟩
    | ok entities =>
      refine .inl ⟨_, rfl, fun r hr => ?_⟩
      obtain ⟨entity, -, rfl⟩ := List.mem_map.1 hr
      exact Catalogue.typeName_of_schema? h

/-- What the route of a relation to one leads to is at most one record, of the target type. -/
theorem related_toOne_cases (name target key : String) :
    (∃ record, (v.related owner ⟨name, .toOne target key⟩).run.comesTo replies = .ok (.one record) ∧
        ∀ r ∈ record, r.schema.typeName = target) ∨
      ∃ fault, (v.related owner ⟨name, .toOne target key⟩).run.comesTo replies = .error fault := by
  rw [comesTo_related_toOne]
  cases h : v.catalogue.schema? target with
  | none => exact .inr ⟨_, rfl⟩
  | some schema =>
    simp only
    cases (owner.partner schema v.headers key).run.comesTo replies with
    | error fault => exact .inr ⟨fault, rfl⟩
    | ok entity =>
      refine .inl ⟨_, rfl, fun r hr => ?_⟩
      obtain ⟨entity, -, rfl⟩ := Option.map_eq_some_iff.1 hr
      exact Catalogue.typeName_of_schema? h

/-- The link of a relation to many tells the ids of what its route leads to, and nothing if the route fails. -/
theorem lookedUp_toMany (name target : String) (linked : LinkedRecords)
    (h : ∀ r ∈ (v.lookedUp replies owner true ⟨name, .toMany target⟩).found, linked.contains r.key = true) :
    let l := v.lookedUp replies owner true ⟨name, .toMany target⟩
    match (v.related owner ⟨name, .toMany target⟩).run.comesTo replies with
    | .ok (.many records) =>
      l.link.ids = some (records.map fun r => r.entity.id) ∧ l.found = records ∧
        ∀ r ∈ records, linked.contains (target, r.entity.id) = true
    | .ok (.one _) => False
    | .error _ => l.link.ids = some [] ∧ l.found = [] := by
  intro l
  have follows : owner.follows ⟨name, .toMany target⟩ = true := rfl
  have ids : l.link.ids = some (l.found.map fun r => r.entity.id) := rfl
  rcases v.related_toMany_cases replies owner name target with ⟨records, hroute, types⟩ | ⟨fault, hroute⟩
  · have found : l.found = records := v.neighboursBy_of_follows replies owner follows hroute
    rw [found] at ids
    rw [hroute]
    refine ⟨ids, found, fun r hr => ?_⟩
    have hkey : r.key = (target, r.entity.id) := by rw [Record.key, types r hr]
    exact hkey ▸ h r (found ▸ hr)
  · have found : l.found = [] := v.neighboursBy_of_follows replies owner follows hroute
    rw [found] at ids
    rw [hroute]
    exact ⟨ids, found⟩

/-- A relation to one whose key holds an id finds what its route leads to, and nothing if the route fails. -/
theorem lookedUp_toOne (name target : String) {key id : String} (reference : owner.entity.reference? key = some id)
    (linked : LinkedRecords)
    (h : ∀ r ∈ (v.lookedUp replies owner true ⟨name, .toOne target key⟩).found, linked.contains r.key = true) :
    let l := v.lookedUp replies owner true ⟨name, .toOne target key⟩
    match (v.related owner ⟨name, .toOne target key⟩).run.comesTo replies with
    | .ok (.one (some r)) => l.found = [r] ∧ linked.contains (target, r.entity.id) = true
    | .ok (.one none) => l.found = []
    | .ok (.many _) => False
    | .error _ => l.found = [] := by
  intro l
  have follows : owner.follows ⟨name, .toOne target key⟩ = true := by
    simp only [Record.follows, Field.key?, reference, Option.isSome_some]
  rcases v.related_toOne_cases replies owner name target key with ⟨record, hroute, types⟩ | ⟨fault, hroute⟩
  · have found : l.found = record.toList := v.neighboursBy_of_follows replies owner follows hroute
    rw [hroute]
    cases record with
    | none => exact found
    | some r =>
      have hkey : r.key = (target, r.entity.id) := by rw [Record.key, types r rfl]
      exact ⟨found, hkey ▸ h r (found ▸ List.mem_cons_self)⟩
  · rw [hroute]
    exact v.neighboursBy_of_follows replies owner follows hroute

end Viewpoint

/-- A record that was found by a lookup is linked afterwards, or one of its key is. -/
theorem Lookup.contains_linked {lookups : List Lookup} {l : Lookup} (hl : l ∈ lookups) (set : LinkedRecords)
    {r : Record} (hr : r ∈ l.found) : (set.insertAll (Lookup.records lookups)).contains r.key = true :=
  set.contains_insertAll_of_mem (List.mem_flatMap.2 ⟨l, hl, hr⟩)

/-- What a document tells of a relation is what the route of the relation leads to: the ids in a link to many are those
of the records of the route, and these are linked afterwards; a link to one tells the id that the key holds, and the
record of the route is linked. A route that fails or leads nowhere adds no record, and neither does a relation to one whose
key holds no id, wherever its route leads. All this is so whatever was linked before. -/
theorem links_agree_with_related {registry : Registry σ} (steady : registry.Steady) (base : String) (request : Request)
    (owner : Record) {field : Field} (declared : field ∈ owner.schema.relations) (set : LinkedRecords) (s s' : σ) :
    let v := registry.viewpoint base request
    let lookups := ((v.lookups owner true).run registry.backend s).value
    let shown := ((v.showInto owner set).run registry.backend s).value.1
    let linked := ((v.showInto owner set).run registry.backend s).value.2
    let answer := ((v.related owner field).run.run registry.backend s').value
    linked = set.insertAll (Lookup.records lookups) ∧
      lookups.map Lookup.name = owner.schema.relations.map Field.name ∧
      ∃ l ∈ lookups, l.name = field.name ∧ shown.links.get? field.name = some l.link ∧
        match field.kind with
        | .toMany target =>
          match answer with
          | .ok (.many records) =>
            l.link.ids = some (records.map fun r => r.entity.id) ∧ l.found = records ∧
              ∀ r ∈ records, linked.contains (target, r.entity.id) = true
          | .ok (.one _) => False
          | .error _ => l.link.ids = some [] ∧ l.found = []
        | .toOne target key =>
          match owner.entity.reference? key with
          | some id =>
            l.link.id = some id ∧
              match answer with
              | .ok (.one (some r)) => l.found = [r] ∧ linked.contains (target, r.entity.id) = true
              | .ok (.one none) => l.found = []
              | .ok (.many _) => False
              | .error _ => l.found = []
          | none => l.link.id = none ∧ l.found = []
        | .scalar | .nullable => False := by
  intro v lookups shown linked answer
  -- Everything that is asked only reads, so the replies in one state stand for those in the other.
  let replies := registry.backend.repliesAt s'
  have reads : (v.lookups owner true).Within Call.Reads :=
    (v.within_lookups owner true).mono fun _ h => h.reads
  have hlookups : lookups = owner.schema.relations.map (v.lookedUp replies owner true) :=
    (steady.run_value reads s s').trans (v.comesTo_lookups replies owner true)
  have hshown : ((v.showInto owner set).run registry.backend s).value =
      (⟨owner, Lookup.links lookups⟩, set.insertAll (Lookup.records lookups)) := by
    rw [v.showInto_eq_lookups]
    exact congrArg Run.value (Plan.run_bind registry.backend _ _ s)
  have hlinked : linked = set.insertAll (Lookup.records lookups) := congrArg Prod.snd hshown
  have hanswer : answer = (v.related owner field).run.comesTo replies :=
    steady.run_value ((v.within_related owner field).mono fun _ h => h.reads) s' s'
  have names : lookups.map Lookup.name = owner.schema.relations.map Field.name := by
    rw [hlookups, List.map_map]
    rfl
  have member : v.lookedUp replies owner true field ∈ lookups := hlookups ▸ List.mem_map_of_mem declared
  have links : shown.links.get? field.name = some (v.lookedUp replies owner true field).link :=
    (congrArg (fun p => p.1.links.get? field.name) hshown).trans (Lookup.get?_links names member)
  have linked_of_found : ∀ r ∈ (v.lookedUp replies owner true field).found, linked.contains r.key = true :=
    fun r hr => hlinked ▸ Lookup.contains_linked member set hr
  refine ⟨hlinked, names, v.lookedUp replies owner true field, member, rfl, links, ?_⟩
  rw [hanswer]
  obtain ⟨name, kind⟩ := field
  cases kind with
  | scalar => cases (List.mem_filter.1 declared).2
  | nullable => cases (List.mem_filter.1 declared).2
  | toMany target => exact v.lookedUp_toMany replies owner name target linked linked_of_found
  | toOne target key =>
    simp only
    cases reference : owner.entity.reference? key with
    | some id => exact ⟨reference, v.lookedUp_toOne replies owner name target reference linked linked_of_found⟩
    | none =>
      have follows : owner.follows ⟨name, .toOne target key⟩ = false := by
        simp only [Record.follows, Field.key?, reference, Option.isSome_none]
      exact ⟨reference, v.neighboursBy_of_not_follows replies owner follows⟩

/-- The link to the comments on the first post of the blog tells the id of the one comment that the route of the comments
leads to, and the comment is linked. -/
theorem blog_links_agree :
    let field : Field := ⟨"comments", .toMany "comments"⟩
    let lookups := ((Blog.view.lookups Blog.firstPost true).run Blog.registry.backend ()).value
    let linked := ((Blog.view.showInto Blog.firstPost .empty).run Blog.registry.backend ()).value.2
    Blog.registry.Steady ∧ field ∈ Blog.posts.relations ∧
      ∃ l ∈ lookups, l.name = "comments" ∧ l.link.ids = some ["5"] ∧
        l.found = [⟨Blog.comments, Blog.comment "5" "1"⟩] ∧
        linked.contains ("comments", "5") = true := by
  intro field lookups linked
  have steady : Blog.registry.Steady := (Blog.isTables none).steady
  have declared : field ∈ Blog.posts.relations := by decide
  obtain ⟨-, -, l, hl, name, -, agrees⟩ :=
    links_agree_with_related steady "/v1" Blog.request Blog.firstPost declared LinkedRecords.empty () ()
  have answer : ((Blog.view.related Blog.firstPost field).run.run Blog.registry.backend ()).value =
      .ok (.many [⟨Blog.comments, Blog.comment "5" "1"⟩]) := rfl
  rw [Blog.view] at answer
  rw [answer] at agrees
  exact ⟨steady, declared, l, hl, name, agrees.1, agrees.2.1, agrees.2.2 _ List.mem_cons_self⟩

end ResourceApi

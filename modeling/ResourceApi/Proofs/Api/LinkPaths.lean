import ResourceApi.Proofs.Api.Hooks
import ResourceApi.Proofs.Api.Mounting
import ResourceApi.Proofs.Registry.Table
import ResourceApi.Proofs.Route.Addresses

/-!
# Where links lead

A link tells the path of its relation, and a request for that path comes to the relation and asks the data source of the
owner for the owner, whatever else there is in the request (`link_leads_to_relation`). For this the texts that the path is
made of have to be plain.
-/

namespace ResourceApi

variable {σ : Type}

/-- What begins with a call is asked of the backend first. -/
theorem Engine.head?_exchanges_of_call {α : Type} (call : Call) (f : call.Result → Engine α) (backend : Backend σ)
    (s : σ) : ((Engine.call call >>= f).run.run backend s).exchanges.head? = some ⟨call, (backend call s).1⟩ := rfl

/-- A link of an entity tells a path that is read as it is, that leads to the relation of the entity and nowhere else, and
a request to read it begins with asking the data source of the entity for it: neither the type nor the relation nor the
method is refused. -/
theorem link_leads_to_relation (registry : Registry σ) (base : String)
    (plainBase : ∀ segment ∈ (Mount.ofText base).segments, Path.Plain segment) {r : Resource σ}
    (registered : r ∈ registry.resources) (plainType : Path.Plain r.typeName) (entity : Entity)
    (plainId : Path.Plain entity.id) (single : ',' ∉ entity.id.toList) {field : Field}
    (declared : field ∈ r.schema.relations) (plainName : Path.Plain field.name) (sideLoad : Bool) (origin : Request)
    (s : σ) :
    let mount := Mount.ofText base
    let lookups := ((registry.viewpoint mount.path origin).lookups ⟨r.schema, entity⟩ sideLoad).run registry.backend s
    ∃ link, (Lookup.links lookups.value).get? field.name = some link ∧
      Target.ofText link.resource = ⟨link.resource, ""⟩ ∧
      ∀ method query headers body,
        let incoming : Incoming := ⟨method, Path.segments link.resource, query, headers, body⟩
        let request : Request := ⟨method, r.typeName, [entity.id], some field.name, query, headers, body⟩
        mount.route incoming = .ok (.relation, request) ∧
          (method = .get → ∀ t,
            (((registry.api mount).dispatch incoming).run.run registry.backend t).exchanges.head? =
              some ⟨.fetch r.typeName entity.id request, (r.source.fetch entity.id request t).1⟩) := by
  intro mount lookups
  have looked := ((registry.viewpoint mount.path origin).gives_lookups ⟨r.schema, entity⟩ sideLoad).run registry.backend s
  obtain ⟨link, held, told⟩ := looked.get?_links declared
  have path : link.resource = Mount.path ⟨mount.segments ++ [r.typeName, entity.id, field.name]⟩ :=
    told.trans (mount.path_relation r.typeName entity.id field.name)
  have plain : ∀ part ∈ mount.segments ++ [r.typeName, entity.id, field.name], Path.Plain part := by
    simp only [List.forall_mem_append, List.forall_mem_cons]
    exact ⟨plainBase, plainType, plainId, plainName, List.forall_mem_nil _⟩
  refine ⟨link, held, ?_, fun method query headers body => ?_⟩
  · rw [path]
    exact Mount.ofText_path (by simp) plain
  · intro incoming request
    have routed : mount.route incoming = .ok (.relation, request) :=
      Mount.route_relation (congrArg Path.segments path) (fun part hpart => (plain part hpart).verbatim) single
    refine ⟨routed, ?_⟩
    rintro rfl t
    have served : registry.lookup? request.resource = some r := Registry.lookup?_of_mem registered
    have asked : registry.backend (.fetch r.typeName entity.id request) = r.source.fetch entity.id request :=
      Registry.backend_of_some _ served
    rw [(registry.api mount).dispatch_of_routed routed, registry.perform_of_served mount .relation request served rfl,
      ← asked]
    change (((registry.api mount).follow r.offering request).run.run registry.backend t).exchanges.head? = _
    rw [(registry.api mount).follow_eq r.offering request rfl rfl declared]
    exact Engine.head?_exchanges_of_call _ _ registry.backend t

/-- The link to the author of a post leads to the author, and asks for the post first. -/
theorem blog_author_link_leads :
    let mount := Mount.ofText "/v1/"
    let owner : Record := Blog.firstPost
    let lookups := ((Blog.registry.viewpoint mount.path Blog.request).lookups owner true).run Blog.registry.backend ()
    let request : Request := ⟨.get, "posts", ["1"], some "author", .empty, .empty, []⟩
    (∀ text ∈ mount.segments ++ ["posts", owner.entity.id, "author"], Path.Plain text) ∧
      ∃ link, (Lookup.links lookups.value).get? "author" = some link ∧
        mount.route ⟨.get, Path.segments link.resource, .empty, .empty, []⟩ = .ok (.relation, request) ∧
        (((Blog.registry.api mount).dispatch ⟨.get, Path.segments link.resource, .empty, .empty, []⟩).run.run
          Blog.registry.backend ()).exchanges.head? =
            some ⟨.fetch "posts" "1" request, .ok (Blog.post "1" "7")⟩ := by
  refine ⟨by decide +kernel, ?_⟩
  have declared : ⟨"author", .toOne "users" "authorID"⟩ ∈ Blog.posts.relations := by decide
  obtain ⟨link, held, -, leads⟩ := link_leads_to_relation Blog.registry "/v1/" (by decide +kernel)
    (List.mem_cons_self : _ ∈ Blog.registry.resources) (by decide +kernel) (Blog.post "1" "7") (by decide +kernel)
    (by decide +kernel) declared (by decide +kernel) true Blog.request ()
  obtain ⟨routed, asks⟩ := leads .get .empty .empty []
  exact ⟨link, held, routed, asks rfl ()⟩

end ResourceApi

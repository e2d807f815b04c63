import ResourceApi.Proofs.Api.Writes
import ResourceApi.Proofs.Document.Provenance

/-!
# Which requests data sources see

A data source sees the request of the client as it was routed, and then it is what the client asked for: the first call to
a data source, or the one that reads back what was stored (`Request.Reaches`). All other requests that a data source sees
look up relations of entities that were answered before, and have nothing of the client's request but its header fields. So
no query parameter, list of ids or body of a client has a say in what is related to what (`requests_are_isolated`).
-/

namespace ResourceApi

variable {σ : Type}

/-- The calls that a routed request may come to, by the exchanges before them. -/
inductive Request.Reaches (routed : Request) (v : Viewpoint) (past : List Exchange) : Call → Prop
  /-- The controller of the addressed type is asked before anybody else. -/
  | consult {hook : Hook} (first : past = []) : Reaches routed v past (.consult routed.resource routed hook)
  /-- The data source of the addressed type is asked after the controller at most. -/
  | list (first : ∀ e ∈ past, e.call.consults = true) : Reaches routed v past (.list routed.resource routed)
  /-- So it is for an entity that is to be shown, or whose relation is to be followed. -/
  | fetch {id : String} (first : ∀ e ∈ past, e.call.consults = true) (one : routed.ids = [id]) :
    Reaches routed v past (.fetch routed.resource id routed)
  | fetchMany (first : past = []) : Reaches routed v past (.fetchMany routed.resource routed.ids routed)
  /-- Right after an entity was stored it is read back. -/
  | readBack {before : List Exchange} {entity : Entity} {id : String}
    (stored : past = before ++ [⟨.create routed.resource entity, .ok id⟩]) (first : ∀ e ∈ before, e.call.consults = true) :
    Reaches routed v past (.fetch routed.resource id routed)
  /-- Data sources see no request when they are to write. -/
  | write {call : Call} (writes : call.writes = true) : Reaches routed v past call
  /-- Relations are looked up by requests of their own. -/
  | related {call : Call} (follows : v.Follows past call) : Reaches routed v past call

/-- A relation that is found by its name is declared. -/
theorem Offering.mem_of_relation {o : Offering} {name : String} {field : Field} (h : o.relation name = .ok field) :
    field ∈ o.schema.relations := by
  unfold relation at h
  split at h
  · next own found =>
    obtain rfl : own = field := Except.ok.inj h
    exact List.mem_of_find?_eq_some found
  · cases h

/-! ## The parts of an operation -/

namespace Api

variable {api : Api} {o : Offering} {routed : Request} {past : List Exchange}

/-- Looking relations up for a request is among what the request comes to. -/
theorem heeds_of_follows {α : Type} {good : List Exchange → α → Prop} {p : Plan α}
    (h : p.Heeds (api.viewpoint routed).Follows good past) :
    p.Heeds (routed.Reaches (api.viewpoint routed)) good past :=
  h.mono (fun _ _ follows => .related follows) fun _ _ told => told

/-- A report for a request only comes to what the request may come to. -/
theorem heeds_lift_of_follows {α : Type} {good : List Exchange → α → Prop} {p : Plan α}
    (h : p.Heeds (api.viewpoint routed).Follows good past) :
    Engine.Heeds (routed.Reaches (api.viewpoint routed)) good past (liftM p : Engine α) :=
  Engine.heeds_lift (heeds_of_follows h)

section Parts

variable (served : api.catalogue.schema? routed.resource = some o.schema)

include served

/-- Whatever comes with an answer from the addressed type is known as a record of it. -/
theorem knows_of_own_answer {call : Call} (addressed : call.type = routed.resource) {answer : call.Result}
    {entity : Entity} (h : entity ∈ call.entities answer) :
    (api.viewpoint routed).Knows (past ++ [⟨call, .ok answer⟩]) ⟨o.schema, entity⟩ := by
  refine Viewpoint.knows_of_answer ?_ h
  rw [addressed]
  exact served

/-- After the controller, nobody but the controller was asked, and if it gave an answer the entities in it are known. -/
theorem heeds_consult (named : o.typeName = routed.resource) (hook : Hook) :
    Engine.Heeds (routed.Reaches (api.viewpoint routed))
      (fun past verdict => (∀ e ∈ past, e.call.consults = true) ∧
        ∀ answer, verdict = .replace answer → ∀ e ∈ hook.entities answer, (api.viewpoint routed).Knows past ⟨o.schema, e⟩)
      [] (o.consult routed hook) := by
  unfold Offering.consult
  split
  · rw [named]
    refine Engine.heeds_call (.consult rfl) fun verdict => ⟨?_, ?_⟩
    · exact List.forall_mem_singleton.2 rfl
    · rintro answer rfl e among
      exact knows_of_own_answer served rfl among
  · exact Engine.heeds_pure ⟨List.forall_mem_nil _, nofun⟩

/-- What the data source answers itself is known. -/
theorem heeds_own (named : o.typeName = routed.resource) {hook : Hook} (single : ∀ id, hook = .fetch id → routed.ids = [id])
    (first : ∀ e ∈ past, e.call.consults = true) :
    Engine.Heeds (routed.Reaches (api.viewpoint routed))
      (fun past answer => ∀ e ∈ hook.entities answer, (api.viewpoint routed).Knows past ⟨o.schema, e⟩)
      past (o.own routed hook) := by
  cases hook with
  | list =>
    simp only [Offering.own, named]
    exact Engine.heeds_call (.list first) fun entities e among => knows_of_own_answer served rfl among
  | fetch id =>
    simp only [Offering.own, named]
    exact Engine.heeds_call (.fetch first (single id rfl)) fun entity e among => knows_of_own_answer served rfl among
  | create entity =>
    simp only [Offering.own, createAndRead, named]
    have stored : Engine.Heeds (routed.Reaches (api.viewpoint routed))
        (fun later id => later = past ++ [⟨.create routed.resource entity, .ok id⟩]) past
        (Engine.create routed.resource entity) :=
      Engine.heeds_call (.write rfl) fun id => rfl
    refine Engine.heeds_bind stored fun later id told => ?_
    exact Engine.heeds_call (.readBack told first) fun entity e among => knows_of_own_answer served rfl among
  | update entity => exact Engine.heeds_call (.write rfl) fun answer => List.forall_mem_nil _
  | delete id => exact Engine.heeds_call (.write rfl) fun answer => List.forall_mem_nil _

/-- Whoever answers, the entities in the answer are known. -/
theorem heeds_answer (named : o.typeName = routed.resource) {hook : Hook}
    (single : ∀ id, hook = .fetch id → routed.ids = [id]) :
    Engine.Heeds (routed.Reaches (api.viewpoint routed))
      (fun past answer => ∀ e ∈ hook.entities answer, (api.viewpoint routed).Knows past ⟨o.schema, e⟩)
      [] (o.answer routed hook (o.own routed hook)) := by
  refine Engine.heeds_bind (heeds_consult served named hook) fun later verdict told => ?_
  cases verdict with
  | proceed => exact heeds_own served named single told.1
  | replace answer => exact Engine.heeds_pure (told.2 answer rfl)

end Parts

/-- What is told of known entities takes nothing but looking their relations up. -/
theorem heeds_tell {hook : Hook} {answer : hook.Replacement}
    (known : ∀ e ∈ hook.entities answer, (api.viewpoint routed).Knows past ⟨o.schema, e⟩) :
    Engine.Heeds (routed.Reaches (api.viewpoint routed)) (fun _ _ => True) past (api.tell o routed hook answer) := by
  have one {e : Entity} (known : (api.viewpoint routed).Knows past ⟨o.schema, e⟩) :=
    heeds_lift_of_follows (Viewpoint.heeds_reportOf known)
  cases hook with
  | list =>
    have all := Viewpoint.heeds_reportOfAll (List.forall_mem_map.2 known)
    exact Engine.heeds_bind (heeds_lift_of_follows all) fun _ _ _ => Engine.heeds_pure trivial
  | fetch id =>
    exact Engine.heeds_bind (one (known _ (List.mem_singleton_self _))) fun _ _ _ => Engine.heeds_pure trivial
  | create entity =>
    exact Engine.heeds_bind (one (known _ (List.mem_singleton_self _))) fun _ _ _ => Engine.heeds_pure trivial
  | update entity => exact Engine.heeds_pure trivial
  | delete id => exact Engine.heeds_pure trivial

/-! ## Operations -/

section Operations

variable (served : api.catalogue.schema? routed.resource = some o.schema) (named : o.typeName = routed.resource)

include served named

/-- A request for a list of ids comes to the data source first. -/
theorem heeds_fetchMany :
    Engine.Heeds (routed.Reaches (api.viewpoint routed)) (fun _ _ => True) [] (api.fetchMany o routed) := by
  have found : Engine.Heeds (routed.Reaches (api.viewpoint routed))
      (fun past entities => ∀ e ∈ entities, (api.viewpoint routed).Knows past ⟨o.schema, e⟩) []
      (Engine.fetchMany o.typeName routed.ids routed) := by
    rw [named]
    exact Engine.heeds_call (.fetchMany rfl) fun entities e among => knows_of_own_answer served rfl among
  refine Engine.heeds_bind found fun later entities known => ?_
  refine Engine.heeds_accept_bind fun kept some => ?_
  unfold someFound at some
  split at some
  · cases some
  · rw [← Except.ok.inj some]
    have all := Viewpoint.heeds_reportOfAll (List.forall_mem_map.2 known)
    exact Engine.heeds_bind (heeds_lift_of_follows all) fun _ _ _ => Engine.heeds_pure trivial

/-- A relation is followed from the entity that the path names, once the data source has answered it. -/
theorem heeds_follow : Engine.Heeds (routed.Reaches (api.viewpoint routed)) (fun _ _ => True) [] (api.follow o routed) := by
  refine Engine.heeds_accept_bind fun id one => ?_
  refine Engine.heeds_accept_bind fun field relation => ?_
  have declared : field ∈ o.schema.relations := Offering.mem_of_relation relation
  have found : Engine.Heeds (routed.Reaches (api.viewpoint routed))
      (fun past entity => (api.viewpoint routed).Knows past ⟨o.schema, entity⟩) []
      (Engine.fetch o.typeName id routed) := by
    rw [named]
    refine Engine.heeds_call (.fetch (List.forall_mem_nil _) (Request.onlyId_eq_ok_iff.1 one)) fun entity => ?_
    exact knows_of_own_answer served rfl (List.mem_singleton_self entity)
  refine Engine.heeds_bind found fun later entity known => ?_
  refine Engine.heeds_bind (heeds_of_follows (Viewpoint.heeds_related known declared)) fun later' relatives known => ?_
  have report := Viewpoint.heeds_reportOfRelatives known
  exact Engine.heeds_bind (heeds_lift_of_follows report) fun _ _ _ => Engine.heeds_pure trivial

/-- Every operation comes only to what its request may come to. -/
theorem heeds_performOn (shape : Shape) (operation : Operation) :
    Engine.Heeds (routed.Reaches (api.viewpoint routed)) (fun _ _ => True) [] (api.performOn o shape routed operation) := by
  have answered {hook : Hook} (asked : o.hook routed operation = .ok (some hook)) :
      Engine.Heeds (routed.Reaches (api.viewpoint routed)) (fun _ _ => True) []
        (api.performOn o shape routed operation) := by
    have single : ∀ id, hook = .fetch id → routed.ids = [id] := by
      rintro id rfl
      cases o.asks_of_hook routed asked with
      | fetch one => exact one
    rw [api.performOn_of_hook o shape routed asked]
    exact Engine.heeds_bind (heeds_answer served named single) fun later answer known => heeds_tell known
  cases asked : o.hook routed operation with
  | error reason =>
    rw [performOn_eq, asked]
    exact Engine.heeds_refuse reason
  | ok decision =>
    cases decision with
    | some hook => exact answered asked
    | none =>
      cases o.asks_of_hook routed asked with
      | fetchMany => exact heeds_fetchMany served named
      | follow => exact heeds_follow served named
      | options => exact Engine.heeds_pure trivial

end Operations

end Api

/-- A request comes only to what it may come to, by the exchanges before. -/
theorem Registry.heeds_perform (registry : Registry σ) (mount : Mount) (shape : Shape) (routed : Request) :
    Engine.Heeds (routed.Reaches (registry.viewpoint mount.path routed)) (fun _ _ => True) []
      ((registry.api mount).perform shape routed) := by
  rcases registry.perform_cases mount shape routed with ⟨reason, refused⟩ | ⟨r, operation, served, -, performed⟩
  · rw [refused]
    exact Engine.heeds_refuse reason
  · have named : r.offering.typeName = routed.resource := typeName_of_lookup? served
    have schema : (registry.api mount).catalogue.schema? routed.resource = some r.offering.schema :=
      registry.schema?_of_lookup? served
    rw [performed]
    exact Api.heeds_performOn schema named shape operation

/-- A request that is routed comes to nothing but what it may reach: the request that a data source sees is the routed one,
as it is, where the client asked for it, and otherwise one that looks up a relation of an entity that was answered before, and
has nothing of the client's but the header fields. This is so for every call at its place, whatever the data sources and
controllers answer, and for all that is shown, be it asked for or linked. A request that is not routed comes to nothing. -/
theorem requests_are_isolated (registry : Registry σ) (mount : Mount) (requestId : String) (raw : RawRequest) (s : σ) :
    let run := ((registry.api mount).respond requestId raw).run registry.backend s
    (∀ shape routed, mount.Routes raw shape routed → ∀ before e after, run.exchanges = before ++ e :: after →
      routed.Reaches (registry.viewpoint mount.path routed) before e.call) ∧
    ((∀ shape routed, ¬mount.Routes raw shape routed) → run.exchanges = []) := by
  intro run
  refine ⟨fun shape routed routes before e after parted => ?_, fun lost => ?_⟩
  · have received : (registry.api mount).receive raw = .ok (shape, routed) := Api.receive_of_routes routes
    have ran := (registry.api mount).run_respond_of_received requestId received registry.backend s
    have performed : (((registry.api mount).perform shape routed).run.run registry.backend s).exchanges =
        before ++ e :: after :=
      (congrArg Run.exchanges ran).symm.trans parted
    exact ((registry.heeds_perform mount shape routed).run registry.backend s).1 before e after performed
  · cases received : (registry.api mount).receive raw with
    | error reason =>
      exact congrArg Run.exchanges ((registry.api mount).run_respond_of_refused requestId received registry.backend s)
    | ok routed => exact absurd (Api.routes_of_receive received) (lost routed.1 routed.2)

namespace Blog

/-- A request for the first post, with a parameter that means nothing for its relations. -/
def limited : RawRequest :=
  { RawRequest.plain .get "/posts/1" "" with target := ⟨"/posts/1", "limit=1,2"⟩ }

/-- The request as it is routed. -/
def limitedRequest : Request :=
  limited.routed [] "posts" ["1"] none

end Blog

/-- When the first post is shown, the data source of the posts sees the parameter of the client. The last of the four calls
asks for the followers of the author, who is linked; all that narrows it is the id of the author. -/
theorem blog_requests_isolated :
    let run := ((Blog.registry.api .root).respond "7" Blog.limited).run Blog.registry.backend ()
    Mount.root.Routes Blog.limited .element Blog.limitedRequest ∧
      Blog.limitedRequest.query.toList = [("limit", ["1", "2"])] ∧
      ∃ before request answer, run.exchanges = before ++ [⟨.list "users" request, answer⟩] ∧ before.length = 3 ∧
        request.query.toList = [("usersID", ["7"])] ∧
        Blog.limitedRequest.Reaches (Blog.registry.viewpoint "" Blog.limitedRequest) before (.list "users" request) := by
  intro run
  have names : Mount.root.Names Blog.limited [] ["posts", "1"] := ⟨rfl, by decide +kernel⟩
  have ids : Mount.idsOf "1" = ["1"] := by decide +kernel
  have routes : Mount.root.Routes Blog.limited .element Blog.limitedRequest := by
    have element := Mount.Routes.element names (by rw [ids]; decide)
    rw [ids] at element
    exact element
  let performed := (((Blog.registry.api .root).perform .element Blog.limitedRequest).run.run Blog.registry.backend ()).exchanges
  have ran : run.exchanges = performed :=
    congrArg Run.exchanges
      ((Blog.registry.api .root).run_respond_of_received "7" (Api.receive_of_routes routes) Blog.registry.backend ())
  let followers := Record.ownedRequest ⟨Blog.users, Blog.user "7" "8"⟩ Blog.users Blog.limitedRequest.headers
  have shown : run.exchanges = performed.take 3 ++ [⟨.list "users" followers, .ok [Blog.user "8" "7"]⟩] := ran.trans rfl
  obtain ⟨isolated, -⟩ := requests_are_isolated Blog.registry .root "7" Blog.limited ()
  have reached := isolated .element Blog.limitedRequest routes _ _ [] shown
  exact ⟨routes, by decide +kernel, _, followers, _, shown, rfl, by decide +kernel, reached⟩

end ResourceApi

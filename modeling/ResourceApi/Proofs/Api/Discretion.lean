import ResourceApi.Proofs.Api.Conversation
import ResourceApi.Proofs.Api.Following
import ResourceApi.Proofs.Document.Discretion
import ResourceApi.Proofs.Registry.Twins

/-!
# Relations that fail unseen

No operation looks into a fault: it ends with it or drops it (`Api.discreet_performOn`). So against registries that differ in
their faults alone, a request makes the same calls and comes to the same outcome, or to a fault in both
(`Registry.Twins.perform`). When entities are read, the first call decides which: once there are entities to show, all that
follows looks relations up, and no fault of a relation is told (`failing_relations_stay_unseen`).
-/

namespace ResourceApi

variable {σ τ α : Type}

/-! ## Operations -/

namespace Offering

variable (o : Offering) (request : Request)

/-- An answer is discreet if what the data source does is: the controller is asked in one call, and its decision does not depend
on faults. -/
theorem discreet_answer (hook : Hook) {source : Engine hook.Replacement}
    (h : source.run.Discreet Akin source.run) :
    (o.answer request hook source).run.Discreet Akin (o.answer request hook source).run := by
  have consulted : (o.consult request hook).run.Discreet Akin (o.consult request hook).run := by
    unfold consult
    split
    · exact Engine.discreet_call (.consult o.typeName request hook)
    · exact Engine.discreet_pure _
  refine Engine.discreet_bind consulted fun verdict => ?_
  cases verdict with
  | proceed => exact h
  | replace answer => exact Engine.discreet_pure answer

/-- What the data source is asked passes its faults on. -/
theorem discreet_own (hook : Hook) : (o.own request hook).run.Discreet Akin (o.own request hook).run := by
  cases hook with
  | list => exact Engine.discreet_call (.list o.typeName request)
  | fetch id => exact Engine.discreet_call (.fetch o.typeName id request)
  | create entity =>
    exact Engine.discreet_bind (Engine.discreet_call (.create o.typeName entity)) fun id =>
      Engine.discreet_call (.fetch o.typeName id request)
  | update entity => exact Engine.discreet_call (.update o.typeName entity)
  | delete id => exact Engine.discreet_call (.delete o.typeName id)

end Offering

namespace Api

variable (api : Api) (o : Offering) (shape : Shape) (request : Request)

/-- What is told of an answer does not depend on the faults of its relations. -/
theorem discreet_tell (hook : Hook) (answer : hook.Replacement) :
    (api.tell o request hook answer).run.Discreet Akin (api.tell o request hook answer).run := by
  cases hook with
  | list =>
    exact Engine.discreet_lift_bind ((api.viewpoint request).discreet_reportOfAll _) fun _ => Engine.discreet_pure _
  | fetch id =>
    exact Engine.discreet_lift_bind ((api.viewpoint request).discreet_reportOf _) fun _ => Engine.discreet_pure _
  | create entity =>
    exact Engine.discreet_lift_bind ((api.viewpoint request).discreet_reportOf _) fun _ => Engine.discreet_pure _
  | update entity => exact Engine.discreet_pure _
  | delete id => exact Engine.discreet_pure _

/-- Every operation makes the same calls and comes to akin results, whichever the faults are. -/
theorem discreet_performOn (operation : Operation) :
    (api.performOn o shape request operation).run.Discreet Akin (api.performOn o shape request operation).run := by
  have answered (hook : Hook) :
      (o.answer request hook (o.own request hook) >>= api.tell o request hook).run.Discreet Akin
        (o.answer request hook (o.own request hook) >>= api.tell o request hook).run :=
    Engine.discreet_bind (o.discreet_answer request hook (o.discreet_own request hook)) (api.discreet_tell o request hook)
  cases operation with
  | list => exact answered .list
  | fetch => exact Engine.discreet_bind (Engine.discreet_accept _) fun id => answered (.fetch id)
  | create => exact Engine.discreet_bind (Engine.discreet_accept _) fun entity => answered (.create entity)
  | update =>
    refine Engine.discreet_bind (Engine.discreet_accept _) fun id => ?_
    refine Engine.discreet_bind (Engine.discreet_accept _) fun sent => ?_
    exact Engine.discreet_bind (Engine.discreet_accept _) fun entity => answered (.update entity)
  | delete => exact Engine.discreet_bind (Engine.discreet_accept _) fun id => answered (.delete id)
  | fetchMany =>
    have found := Engine.discreet_call (.fetchMany o.typeName request.ids request)
    refine Engine.discreet_bind found fun entities => ?_
    refine Engine.discreet_bind (Engine.discreet_accept _) fun entities => ?_
    exact Engine.discreet_lift_bind ((api.viewpoint request).discreet_reportOfAll _) fun _ => Engine.discreet_pure _
  | follow =>
    refine Engine.discreet_bind (Engine.discreet_accept _) fun id => ?_
    refine Engine.discreet_bind (Engine.discreet_accept _) fun field => ?_
    have found := Engine.discreet_call (.fetch o.typeName id request)
    refine Engine.discreet_bind found fun entity => ?_
    refine Engine.discreet_bind ((api.viewpoint request).discreet_related ⟨o.schema, entity⟩ field) fun related => ?_
    exact Engine.discreet_lift_bind ((api.viewpoint request).discreet_reportOfRelatives _) fun _ =>
      Engine.discreet_pure _
  | options => exact Engine.discreet_pure _

/-- A request makes the same calls and comes to akin results, whichever the faults are. -/
theorem discreet_perform : (api.perform shape request).run.Discreet Akin (api.perform shape request).run := by
  refine Engine.discreet_bind (Engine.discreet_accept _) fun o => ?_
  exact Engine.discreet_bind (Engine.discreet_accept _) fun operation => api.discreet_performOn o shape request operation

end Api

/-- Against registries that differ in their faults alone, a request makes the same calls and comes to akin results. -/
theorem Registry.Twins.perform {same : σ → τ → Prop} {registry : Registry σ} {other : Registry τ}
    (twins : registry.Twins same other) (mount : Mount) (shape : Shape) (request : Request) {s : σ} {t : τ}
    (hs : same s t) :
    let run := ((registry.api mount).perform shape request).run.run registry.backend s
    let run' := ((other.api mount).perform shape request).run.run other.backend t
    Akin run.value run'.value ∧ run.calls = run'.calls ∧ same run.state run'.state := by
  rw [twins.api mount]
  exact Plan.Discreet.run twins.backend ((other.api mount).discreet_perform shape request) hs

/-! ## Entities that are read -/

/-- The entities that a request to read asks for, without those that they are related to: of a whole type or of one id
those that the controller puts in the place of the data source's, if it does, and otherwise those of the data source. -/
def Offering.primary (o : Offering) (request : Request) : Engine (List Entity) :=
  match request.ids with
  | [] => o.answer request .list (Engine.list o.typeName request)
  | [id] => do
    let entity ← o.answer request (.fetch id) (Engine.fetch o.typeName id request)
    return [entity]
  | ids => Engine.fetchMany o.typeName ids request

/-- The operation by which entities are read. -/
def Operation.reading : (ids : List String) → Operation
  | [] => .list
  | [_] => .fetch
  | _ => .fetchMany

/-- A GET leads to it, unless it asks for a relation. -/
theorem Mount.Routes.picks_reading {mount : Mount} {raw : RawRequest} {shape : Shape} {request : Request}
    (routes : mount.Routes raw shape request) (get : raw.method = .get) (direct : shape ≠ .relation) :
    Operation.Picks shape request.method request.ids.length (Operation.reading request.ids) := by
  cases routes with
  | @collection body type names =>
    have method : (raw.routed body type [] none).method = .get := get
    rw [method]
    exact .list 0
  | @element body type segment names some =>
    have method : (raw.routed body type (Mount.idsOf segment) none).method = .get := get
    rw [method]
    change Operation.Picks .element .get (Mount.idsOf segment).length (Operation.reading (Mount.idsOf segment))
    match ids : Mount.idsOf segment with
    | [] => exact absurd ids some
    | [id] => exact .fetch
    | first :: second :: more => exact .fetchMany (by simp)
  | relation names one => exact absurd rfl direct

/-- Once there are entities to show, they are shown, whatever comes of their relations. -/
theorem Api.act_of_primary (api : Api) (o : Offering) (shape : Shape) (request : Request) (backend : Backend σ)
    {entities : List Entity} {s s' : σ} (found : (o.primary request).act backend s = (.ok entities, s'))
    (some : request.ids.length ≤ 1 ∨ entities ≠ []) :
    ∃ report : Report, ((api.performOn o shape request (.reading request.ids)).act backend s).1 =
      .ok (.document .ok report.document none) := by
  unfold Offering.primary at found
  match ids : request.ids with
  | [] =>
    simp only [ids] at found
    have answered : (o.answer request .list (o.own request .list)).act backend s = (.ok entities, s') := found
    rw [Operation.reading, api.performOn_of_hook o shape request rfl, Engine.act_bind_ok backend answered]
    change ∃ report, ((liftM _ >>= _ : Engine Outcome).act backend s').1 = _
    rw [Engine.act_lift_bind]
    exact ⟨_, rfl⟩
  | [id] =>
    simp only [ids] at found
    obtain ⟨entity, t, answered, -⟩ := Engine.act_bind_eq_ok backend found
    have answered : (o.answer request (.fetch id) (o.own request (.fetch id))).act backend s = (.ok entity, t) := answered
    have asked : o.hook request .fetch = .ok (Option.some (.fetch id)) := o.hook_fetch ids
    rw [Operation.reading, api.performOn_of_hook o shape request asked, Engine.act_bind_ok backend answered]
    change ∃ report, ((liftM _ >>= _ : Engine Outcome).act backend t).1 = _
    rw [Engine.act_lift_bind]
    exact ⟨_, rfl⟩
  | first :: second :: more =>
    simp only [ids] at found
    have nonempty : entities ≠ [] := by
      rcases some with few | nonempty
      · simp [ids] at few
      · exact nonempty
    have kept : Api.someFound o.typeName request.ids entities = .ok entities := by
      unfold Api.someFound
      rw [List.isEmpty_eq_false_iff.2 nonempty]
      rfl
    rw [← ids] at found
    change ∃ report, ((Engine.fetchMany o.typeName request.ids request >>= _ : Engine Outcome).act backend s).1 = _
    rw [Engine.act_bind_ok backend found, kept, Engine.accept_ok_bind]
    rw [Engine.act_lift_bind]
    exact ⟨_, rfl⟩

/-- When entities are read, then once there are entities to show they are shown, and which document it is does not depend on
how the lookups of their relations fail, but only on which do. Data sources and controllers that differ in their faults alone
are called in the same way and lead to one response. So no relation turns it into a failure, be it because its target fails
or because its target is not registered. -/
theorem failing_relations_stay_unseen {registry : Registry σ} {other : Registry τ} {same : σ → τ → Prop}
    (twins : registry.Twins same other) (mount : Mount) (requestId : String) {raw : RawRequest} {shape : Shape}
    {request : Request} (routes : mount.Routes raw shape request) (get : raw.method = .get) (direct : shape ≠ .relation)
    {r : Resource σ} (served : registry.lookup? request.resource = some r) {s s' : σ} {t : τ} (hs : same s t)
    {entities : List Entity} (found : (r.offering.primary request).act registry.backend s = (.ok entities, s'))
    (some : request.ids.length ≤ 1 ∨ entities ≠ []) :
    let run := ((registry.api mount).respond requestId raw).run registry.backend s
    let run' := ((other.api mount).respond requestId raw).run other.backend t
    (∃ document : Document,
        run.value = (Response.ofDocument .ok document.json.bytes requestId).finish requestId ∧ run'.value = run.value) ∧
      run.value.status = .ok ∧ run'.calls = run.calls ∧ same run.state run'.state := by
  intro run run'
  have received : (registry.api mount).receive raw = .ok (shape, request) := Api.receive_of_routes routes
  have received' : (other.api mount).receive raw = .ok (shape, request) := Api.receive_of_routes routes
  obtain ⟨value, state⟩ := (registry.api mount).run_respond_eq_act registry.backend received requestId s
  obtain ⟨value', state'⟩ := (other.api mount).run_respond_eq_act other.backend received' requestId t
  have made := congrArg Run.calls ((registry.api mount).run_respond_of_received requestId received registry.backend s)
  have made' := congrArg Run.calls ((other.api mount).run_respond_of_received requestId received' other.backend t)
  obtain ⟨akin, calls, states⟩ := twins.perform mount shape request hs
  change Akin (((registry.api mount).perform shape request).act registry.backend s).1
    (((other.api mount).perform shape request).act other.backend t).1 at akin
  have picked := Operation.of_eq_ok_iff.2 (routes.picks_reading get direct)
  -- The first run comes to a document, and so the second comes to the same.
  obtain ⟨report, shown⟩ := (registry.api mount).act_of_primary r.offering shape request registry.backend found some
  rw [← registry.perform_of_served mount shape request served picked] at shown
  have shown' : (((other.api mount).perform shape request).act other.backend t).1 =
      .ok (.document .ok report.document none) := by
    rw [shown] at akin
    generalize (((other.api mount).perform shape request).act other.backend t).1 = result at akin
    cases akin
    rfl
  rw [shown] at value
  rw [shown'] at value'
  have told : run.value = (Response.ofDocument .ok report.document.json.bytes requestId).finish requestId := value
  refine ⟨⟨report.document, told, value'.trans value.symm⟩, ?_, made'.trans (calls.symm.trans made.symm), ?_⟩
  · rw [told, Response.status_finish]
    rfl
  · rw [show run.state = _ from state, show run'.state = _ from state']
    exact states

/-- A data source that fails whatever it is asked. -/
def Source.failing (fault : Fault) : Source σ where
  list _ := .fail fault
  fetch _ _ := .fail fault
  fetchMany _ _ := .fail fault
  create _ := .fail fault
  update _ := .fail fault
  delete _ := .fail fault

namespace Blog

/-- A resource that cannot be had. -/
def unavailable (schema : Schema) (fault : Fault) : Resource Unit where
  schema := schema
  source := .failing fault

/-- The blog while its users and its comments cannot be had. -/
def broken (fault : Fault) : Registry Unit where
  resources := [
    { schema := posts, source := .ofTable [post "1" "7", post "2" "7"] },
    unavailable users fault,
    unavailable comments fault]
  distinct := registry.distinct

/-- Resources of one schema that cannot be had are twins, whatever their faults. -/
theorem twins_unavailable (schema : Schema) (fault other : Fault) :
    (unavailable schema fault).Twins (fun _ _ => True) (unavailable schema other) where
  schema := rfl
  controlled := rfl
  answers call s t _ := by
    cases call with
    | consult type request hook => exact ⟨.ok _, trivial⟩
    | list | fetch | fetchMany | create | update | delete => exact ⟨.error fault other, trivial⟩

/-- It makes no difference to the blog how its users and comments fail. -/
theorem twins_broken (fault other : Fault) : (broken fault).Twins (fun _ _ => True) (broken other) := by
  refine .cons ⟨rfl, rfl, fun call s t _ => ⟨?_, trivial⟩⟩
    (.cons (twins_unavailable users fault other) (.cons (twins_unavailable comments fault other) .nil))
  exact Akin.refl _

end Blog

/-- The posts are shown in one and the same way whether the users and the comments have failed or are not to be found. -/
theorem blog_failures_stay_unseen :
    let raw : RawRequest := .plain .get "/posts" ""
    let failed := (((Blog.broken (.internal "down")).api .root).respond "7" raw).run
      (Blog.broken (.internal "down")).backend ()
    let missing := (((Blog.broken (.notFound "gone")).api .root).respond "7" raw).run
      (Blog.broken (.notFound "gone")).backend ()
    failed.value.status = .ok ∧ missing.value = failed.value ∧ missing.calls = failed.calls := by
  intro raw failed missing
  let request : Request := raw.routed (Utf8.encode "") "posts" [] none
  have twins := Blog.twins_broken (.internal "down") (.notFound "gone")
  have names : Mount.root.Names raw (Utf8.encode "") ["posts"] := ⟨rfl, by decide +kernel⟩
  have found : (Offering.primary ⟨Blog.posts, false⟩ request).act (Blog.broken (.internal "down")).backend () =
      (.ok [Blog.post "1" "7", Blog.post "2" "7"], ()) := rfl
  obtain ⟨⟨document, -, same⟩, status, calls, -⟩ :=
    failing_relations_stay_unseen twins .root "7" (.collection names) rfl nofun rfl trivial found (.inl (Nat.zero_le 1))
  exact ⟨status, same, calls⟩

end ResourceApi

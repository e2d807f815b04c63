import ResourceApi.Proofs.Api.Performance
import ResourceApi.Proofs.Document.Below
import ResourceApi.Proofs.Document.Showing
import ResourceApi.Proofs.Http.Target
import ResourceApi.Proofs.Registry.Controllers
import ResourceApi.Proofs.Route.Paths

/-!
# APIs below mount points

Wherever an API is mounted, it answers a path below the mount point as it would answer the rest of the path at the root of
the server: it makes the same calls, and what it tells differs in the paths of relations and of created entities alone,
which lie below the mount point too (`dispatch_below_mount`). This holds for every way to write the mount point, since a
path has the segments of its parts.
-/

namespace ResourceApi

variable {σ : Type}

/-- What comes of a request at the root, and of the same request below a base: the same fault, or the same outcome but for
the paths. These are the path of a created entity and, of every record that the report shows, the path in each of its
links. The records are shown as they are at the root. -/
inductive ToldAlike (root : Viewpoint) (base : String) : Except Fault Outcome → Except Fault Outcome → Prop
  | fault (fault : Fault) : ToldAlike root base (.error fault) (.error fault)
  | document (status : Status) {report : Report} (location : Option String) (shown : ∀ s ∈ report.shown, root.Shows s) :
    ToldAlike root base (.ok (.document status report.document location))
      (.ok (.document status (report.below base).document (location.map (base ++ ·))))
  | noContent (allow : Option String) : ToldAlike root base (.ok (.noContent allow)) (.ok (.noContent allow))

namespace Api

/-- Route a request that has been read, and perform it. -/
def dispatch (api : Api) (incoming : Incoming) : Engine Outcome := do
  let (shape, request) ← Engine.accept (api.mount.route incoming)
  api.perform shape request

/-- A request whose body comes in whole is dispatched, and what comes of it is rendered. -/
theorem handle_of_whole (api : Api) (requestId : String) {raw : RawRequest} {body : Bytes}
    (whole : Chunk.collect raw.chunks = .ok body) :
    api.handle requestId raw = (do
      let outcome ← api.dispatch (.ofRaw raw body)
      Engine.accept (outcome.response requestId)) := by
  unfold handle dispatch receive
  rw [whole, bind_assoc]

/-- A request that is routed is performed as it was routed. -/
theorem dispatch_of_routed (api : Api) {incoming : Incoming} {shape : Shape} {request : Request}
    (h : api.mount.route incoming = .ok (shape, request)) : api.dispatch incoming = api.perform shape request := by
  unfold dispatch
  rw [h]
  rfl

/-! ## Operations at the root and below -/

section Operations

variable (c : Catalogue) (mount : Mount) (o : Offering) (shape : Shape) (request : Request)

/-- A report that is put together at the root, and the same report below a mount point, are told alike. -/
theorem parallel_document {root : Viewpoint} {base : String} {p : Plan Report}
    (shown : p.Gives fun report => ∀ s ∈ report.shown, root.Shows s) (status : Status) (location : Option String) :
    (do
      let report ← liftM p
      return Outcome.document status report.document location : Engine Outcome).run.Parallel (ToldAlike root base)
    (do
      let report ← liftM (Report.below base <$> p)
      return Outcome.document status report.document (location.map (base ++ ·)) : Engine Outcome).run := by
  rw [Engine.run_lift_bind, Engine.run_lift_bind]
  refine (shown.parallel_map (Report.below base)).bind ?_
  rintro report _ ⟨all, rfl⟩
  exact .done (.document status location all)

/-- The path of an entity lies below the mount point. -/
theorem elementPath_below (type id : String) :
    elementPath ⟨c, mount⟩ type id = mount.path ++ elementPath ⟨c, .root⟩ type id := by
  unfold elementPath
  change _ = mount.path ++ ("" ++ "/" ++ type ++ "/" ++ id)
  simp only [String.empty_append, String.append_assoc]

variable {o}

/-- What is told of an answer at the root and below a mount point is told alike, after the same calls. -/
theorem parallel_tell (served : c.schema? o.typeName = some o.schema) (hook : Hook) (answer : hook.Replacement) :
    (tell ⟨c, .root⟩ o request hook answer).run.Parallel (ToldAlike ⟨c, "", request.headers⟩ mount.path)
      (tell ⟨c, mount⟩ o request hook answer).run := by
  let root : Viewpoint := ⟨c, "", request.headers⟩
  have each (entity : Entity) : root.Serves ⟨o.schema, entity⟩ := root.serves_of_schema? served entity
  cases hook with
  | list =>
    simp only [tell]
    rw [Viewpoint.reportOfAll_below (viewpoint ⟨c, mount⟩ request)]
    exact parallel_document (root.gives_reportOfAll (List.forall_mem_map.2 fun entity _ => each entity)) .ok none
  | fetch id =>
    simp only [tell]
    rw [Viewpoint.reportOf_below (viewpoint ⟨c, mount⟩ request)]
    exact parallel_document (root.gives_reportOf (each answer)) .ok none
  | create entity =>
    simp only [tell]
    rw [Viewpoint.reportOf_below (viewpoint ⟨c, mount⟩ request), elementPath_below c mount]
    exact parallel_document (root.gives_reportOf (each answer)) .created (some _)
  | update entity => exact .done (.noContent none)
  | delete id => exact .done (.noContent none)

/-- Every operation makes the same calls at the root and below a mount point, and comes to the same but for the paths. -/
theorem parallel_performOn (served : c.schema? o.typeName = some o.schema) (operation : Operation) :
    (performOn ⟨c, .root⟩ o shape request operation).run.Parallel (ToldAlike ⟨c, "", request.headers⟩ mount.path)
      (performOn ⟨c, mount⟩ o shape request operation).run := by
  let root : Viewpoint := ⟨c, "", request.headers⟩
  have answered (hook : Hook) :
      (o.answer request hook (o.own request hook) >>= tell ⟨c, .root⟩ o request hook).run.Parallel
        (ToldAlike root mount.path) (o.answer request hook (o.own request hook) >>= tell ⟨c, mount⟩ o request hook).run :=
    Engine.parallel_bind .fault fun answer => parallel_tell c mount request served hook answer
  cases operation with
  | list => exact answered .list
  | fetch => exact Engine.parallel_bind .fault fun id => answered (.fetch id)
  | create => exact Engine.parallel_bind .fault fun entity => answered (.create entity)
  | update =>
    refine Engine.parallel_bind .fault fun id => ?_
    refine Engine.parallel_bind .fault fun sent => ?_
    exact Engine.parallel_bind .fault fun entity => answered (.update entity)
  | delete => exact Engine.parallel_bind .fault fun id => answered (.delete id)
  | fetchMany =>
    refine Engine.parallel_bind .fault fun found => ?_
    refine Engine.parallel_bind .fault fun entities => ?_
    rw [Viewpoint.reportOfAll_below (viewpoint ⟨c, mount⟩ request)]
    have each : ∀ r ∈ entities.map (⟨o.schema, ·⟩), root.Serves r :=
      List.forall_mem_map.2 fun entity _ => root.serves_of_schema? served entity
    exact parallel_document (root.gives_reportOfAll each) .ok none
  | follow =>
    refine Engine.parallel_bind .fault fun id => ?_
    refine Engine.parallel_bind .fault fun field => ?_
    refine Engine.parallel_bind .fault fun entity => ?_
    rw [Viewpoint.related_below (viewpoint ⟨c, mount⟩ request)]
    refine Engine.parallel_bind_of_gives .fault (root.gives_related ⟨o.schema, entity⟩ field) fun related each => ?_
    rw [Viewpoint.reportOfRelatives_below (viewpoint ⟨c, mount⟩ request)]
    exact parallel_document (root.gives_reportOfRelatives each) .ok none
  | options => exact .done (.noContent _)

/-- A request makes the same calls at the root and below a mount point, and comes to the same but for the paths. -/
theorem parallel_perform :
    (perform ⟨c, .root⟩ shape request).run.Parallel (ToldAlike ⟨c, "", request.headers⟩ mount.path)
      (perform ⟨c, mount⟩ shape request).run := by
  unfold perform
  cases found : c.find request.resource with
  | error reason => exact .done (.fault _)
  | ok o =>
    have served : c.schema? o.typeName = some o.schema := Catalogue.schema?_of_find found
    rw [Engine.accept_ok_bind, Engine.accept_ok_bind]
    exact Engine.parallel_bind .fault fun operation => parallel_performOn c mount shape request served operation

end Operations

end Api

/-! ## Routes at the root and below -/

namespace Mount

variable (base path : String) (method : Method) (query : Query) (headers : Headers) (body : Bytes)

/-- A path that is put together below a mount point leads there where the rest of it leads at the root. -/
theorem route_below :
    (ofText base).route ⟨method, Path.segments (base ++ "/" ++ path), query, headers, body⟩ =
      match root.route ⟨method, Path.segments path, query, headers, body⟩ with
      | .ok routed => .ok routed
      | .error _ => .error (.noRoute (Path.segments (base ++ "/" ++ path))) := by
  have below : (ofText base).below? (Path.segments (base ++ "/" ++ path)) = some (Path.segments path) :=
    below?_eq_some_iff.2 (Path.segments_append base path)
  have whole : root.below? (Path.segments path) = some (Path.segments path) :=
    below?_eq_some_iff.2 rfl
  unfold route
  simp only [below, whole, Option.bind_some]
  cases parts? (Path.segments path) <;> rfl

/-- A routed request has the header fields that came in. -/
theorem headers_of_route {m : Mount} {incoming : Incoming} {shape : Shape} {request : Request}
    (h : m.route incoming = .ok (shape, request)) : request.headers = incoming.headers := by
  unfold route at h
  split at h
  · cases h
  · cases h
    rfl

end Mount

/-- A request whose path leads nowhere is refused at once, and the refusal names the path. -/
theorem Api.run_dispatch_of_error (api : Api) {incoming : Incoming} {reason : Refusal}
    (h : api.mount.route incoming = .error reason) (backend : Backend σ) (s : σ) :
    (api.dispatch incoming).run.run backend s =
      ⟨.error (.notFound ("no route for /" ++ Text.join "/" incoming.segments)), [], s⟩ := by
  have nowhere : reason = .noRoute incoming.segments := by
    unfold Mount.route at h
    split at h
    · exact (Except.error.inj h).symm
    · cases h
  unfold dispatch
  rw [h, nowhere]
  rfl

/-- An API below a mount point answers a path that begins with the mount point as the API at the root answers the rest of
it. It makes the same calls and leaves the same state. Either both paths lead to the same route with the same request, and
then what comes of it is told alike, or both lead nowhere, and then the refusals differ in the path that they name. -/
theorem dispatch_below_mount (registry : Registry σ) (base path : String) (method : Method) (query : Query)
    (headers : Headers) (body : Bytes) (s : σ) :
    let mount := Mount.ofText base
    let rest : Incoming := ⟨method, Path.segments path, query, headers, body⟩
    let whole : Incoming := ⟨method, Path.segments (base ++ "/" ++ path), query, headers, body⟩
    let atRoot := ((registry.api .root).dispatch rest).run.run registry.backend s
    let below := ((registry.api mount).dispatch whole).run.run registry.backend s
    below.exchanges = atRoot.exchanges ∧ below.state = atRoot.state ∧
      ((∃ routed, Mount.root.route rest = .ok routed ∧ mount.route whole = .ok routed ∧
          ToldAlike ⟨registry.catalogue, "", headers⟩ mount.path atRoot.value below.value) ∨
        (∃ reason reason', Mount.root.route rest = .error reason ∧ mount.route whole = .error reason' ∧
          atRoot.value = .error (.notFound ("no route for /" ++ Text.join "/" (Path.segments path))) ∧
          below.value = .error (.notFound ("no route for /" ++ Text.join "/" (Path.segments (base ++ "/" ++ path)))))) := by
  intro mount rest whole atRoot below
  have moved := Mount.route_below base path method query headers body
  cases first : Mount.root.route rest with
  | error reason =>
    have second : mount.route whole = .error (.noRoute (Path.segments (base ++ "/" ++ path))) := by
      rw [first] at moved
      exact moved
    have refused : atRoot = _ := (registry.api .root).run_dispatch_of_error first registry.backend s
    have refused' : below = _ := (registry.api mount).run_dispatch_of_error second registry.backend s
    rw [refused, refused']
    exact ⟨rfl, rfl, .inr ⟨_, _, rfl, second, rfl, rfl⟩⟩
  | ok routed =>
    obtain ⟨shape, request⟩ := routed
    have second : mount.route whole = .ok (shape, request) := by
      rw [first] at moved
      exact moved
    have performed := (registry.api .root).dispatch_of_routed first
    have performed' := (registry.api mount).dispatch_of_routed second
    obtain ⟨value, exchanges, state⟩ :=
      (Api.parallel_perform registry.catalogue mount shape request).run registry.backend s
    rw [Mount.headers_of_route first] at value
    simp only [atRoot, below, performed, performed']
    exact ⟨exchanges.symm, state.symm, .inl ⟨_, rfl, second, value⟩⟩

end ResourceApi

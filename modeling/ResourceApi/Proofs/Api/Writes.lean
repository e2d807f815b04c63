import ResourceApi.Proofs.Api.Hooks
import ResourceApi.Proofs.Api.Responding
import ResourceApi.Proofs.Entity.Submitted
import ResourceApi.Proofs.Plan.Spending

/-!
# Which writes a request may come to

Beside reads, a request comes to at most two calls: to the controller of the addressed type, and then the one write that
the controller was asked about (`Api.spends_performOn`). So of all that a request may do, in every registry and whatever
data sources and controllers answer, only three things change what a data source keeps (`Registry.Allows`), and it does
at most one of them, to the resource of the type that its path names (`writes_are_confined`).
-/

namespace ResourceApi

variable {σ : Type}

namespace Call

/-- A call that changes what a data source keeps. -/
def writes : Call → Bool
  | create _ _ | update _ _ | delete _ _ => true
  | list _ _ | fetch _ _ _ | fetchMany _ _ _ | consult _ _ _ => false

/-- A call that is no read: a write, or a question to a controller. -/
def acts (call : Call) : Bool :=
  call.writes || call.consults

/-- Writes are among the calls that are no reads. -/
theorem filter_writes_filter_acts (calls : List Call) : (calls.filter acts).filter writes = calls.filter writes := by
  rw [List.filter_filter]
  refine List.filter_congr fun call _ => ?_
  unfold acts
  cases call.writes <;> simp

/-- A read neither writes nor asks a controller. -/
theorem Reads.not_acts {call : Call} (h : call.Reads) : call.acts = false := by
  cases call with
  | list | fetch | fetchMany => rfl
  | create | update | delete | consult => exact h.elim

end Call

/-- The write that a data source is asked for, unless the controller answers in its place. -/
def Hook.write? (type : String) : Hook → Option Call
  | .list | .fetch _ => none
  | .create entity => some (.create type entity)
  | .update entity => some (.update type entity)
  | .delete id => some (.delete type id)

/-- The id of a request is taken if and only if there is no other. -/
theorem Request.onlyId_eq_ok_iff {request : Request} {id : String} : request.onlyId = .ok id ↔ request.ids = [id] := by
  unfold onlyId id?
  constructor
  · intro h
    split at h
    · next first found =>
      split at found
      · next ids => exact ids.trans (by rw [Option.some.inj found, Except.ok.inj h])
      · cases found
    · cases h
  · intro h
    rw [h]

/-- What a data source is asked for by a decision on a write is a write. -/
theorem Hook.writes_of_write? {type : String} {hook : Hook} {call : Call} (h : hook.write? type = some call) :
    call.writes = true := by
  cases hook <;> cases h <;> rfl

namespace Offering

variable (o : Offering) (request : Request)

/-- What a controller is asked about an operation, once the operation has all it needs. -/
inductive Asks : Operation → Option Hook → Prop
  | list : Asks .list (some .list)
  | fetch {id : String} (one : request.ids = [id]) : Asks .fetch (some (.fetch id))
  | create {entity : Entity} (accepted : Entity.ofBody o.schema request.body = .ok entity) :
    Asks .create (some (.create entity))
  | update {id : String} {sent entity : Entity} (one : request.ids = [id])
    (accepted : Entity.ofBody o.schema request.body = .ok sent) (placed : sent.under id = .ok entity) :
    Asks .update (some (.update entity))
  | delete {id : String} (one : request.ids = [id]) : Asks .delete (some (.delete id))
  | fetchMany : Asks .fetchMany none
  | follow : Asks .follow none
  | options : Asks .options none

/-- Whatever a controller is asked about, the request has all that the operation needs. -/
theorem asks_of_hook {operation : Operation} {asked : Option Hook} (h : o.hook request operation = .ok asked) :
    o.Asks request operation asked := by
  cases operation with
  | list =>
    cases h
    exact .list
  | fetch =>
    obtain ⟨id, one, h⟩ := Except.ok_of_bind h
    cases h
    exact .fetch (Request.onlyId_eq_ok_iff.1 one)
  | create =>
    obtain ⟨entity, accepted, h⟩ := Except.ok_of_bind h
    cases h
    exact .create accepted
  | update =>
    obtain ⟨id, one, h⟩ := Except.ok_of_bind h
    obtain ⟨sent, accepted, h⟩ := Except.ok_of_bind h
    obtain ⟨entity, placed, h⟩ := Except.ok_of_bind h
    cases h
    exact .update (Request.onlyId_eq_ok_iff.1 one) accepted placed
  | delete =>
    obtain ⟨id, one, h⟩ := Except.ok_of_bind h
    cases h
    exact .delete (Request.onlyId_eq_ok_iff.1 one)
  | fetchMany =>
    cases h
    exact .fetchMany
  | follow =>
    cases h
    exact .follow
  | options =>
    cases h
    exact .options

/-- So it is asked, and nothing else stands against it. -/
theorem hook_of_asks {operation : Operation} {asked : Option Hook} (h : o.Asks request operation asked) :
    o.hook request operation = .ok asked := by
  cases h with
  | list | fetchMany | follow | options => rfl
  | fetch one | delete one =>
    simp only [hook, Request.onlyId_eq_ok_iff.2 one]
    rfl
  | create accepted =>
    simp only [hook, accepted]
    rfl
  | update one accepted placed =>
    simp only [hook, Request.onlyId_eq_ok_iff.2 one, accepted]
    exact congrArg ((fun entity => some (Hook.update entity)) <$> ·) placed

/-- What an operation may come to beside reads: the question to the controller and then the write. -/
def actions (operation : Operation) : List Call :=
  match o.hook request operation with
  | .ok (some hook) => .consult o.typeName request hook :: (hook.write? o.typeName).toList
  | _ => []

/-! ## Calls of the parts of an operation -/

/-- A data source is asked to write what the decision was about, and nothing else. -/
theorem spends_own (hook : Hook) : (o.own request hook).run.Spends Call.acts (hook.write? o.typeName).toList := by
  cases hook with
  | list => exact .free rfl fun _ => .done _ _
  | fetch id => exact .free rfl fun _ => .done _ _
  | create entity =>
    have read (id : String) : (Engine.fetch o.typeName id request).run.Spends Call.acts [] :=
      .free rfl fun _ => .done _ _
    exact Engine.spends_bind (Engine.spends_call []) read
  | update entity => exact Engine.spends_call []
  | delete id => exact Engine.spends_call []

/-- For an answer the controller is asked first, and then the data source to write. -/
theorem spends_answer (hook : Hook) :
    (o.answer request hook (o.own request hook)).run.Spends Call.acts
      (.consult o.typeName request hook :: (hook.write? o.typeName).toList) := by
  have consulted : (o.consult request hook).run.Spends Call.acts [.consult o.typeName request hook] := by
    unfold consult
    split
    · exact Engine.spends_call []
    · exact .done _ _
  refine Engine.spends_bind consulted fun verdict => ?_
  cases verdict with
  | proceed => exact o.spends_own request hook
  | replace answer => exact .done _ _

end Offering

namespace Api

variable (api : Api) (o : Offering) (shape : Shape) (request : Request)

/-- An operation that no controller is asked about reads and does nothing else. -/
theorem reads_of_no_hook {operation : Operation} (h : o.hook request operation = .ok none) :
    (api.performOn o shape request operation).run.Within Call.Reads := by
  cases o.asks_of_hook request h with
  | fetchMany =>
    refine Engine.within_bind (Engine.within_call trivial) fun found => ?_
    refine Engine.within_bind (Engine.within_accept _) fun entities => ?_
    refine Engine.within_bind (Engine.within_lift ?_) fun _ => Plan.within_pure _
    exact (Viewpoint.within_reportOfAll _ _).mono fun _ looks => looks.reads
  | follow =>
    refine Engine.within_bind (Engine.within_accept _) fun id => ?_
    refine Engine.within_bind (Engine.within_accept _) fun field => ?_
    refine Engine.within_bind (Engine.within_call trivial) fun entity => ?_
    have looked := (Viewpoint.within_related (api.viewpoint request) ⟨o.schema, entity⟩ field).mono fun _ looks =>
      looks.reads
    refine Engine.within_bind looked fun related => ?_
    refine Engine.within_bind (Engine.within_lift ?_) fun _ => Plan.within_pure _
    exact (Viewpoint.within_reportOfRelatives _ _).mono fun _ looks => looks.reads
  | options => exact Plan.within_pure _

/-- Beside reads, an operation comes to the question to the controller and then to the write, and to each at most once. -/
theorem spends_performOn (operation : Operation) :
    (api.performOn o shape request operation).run.Spends Call.acts (o.actions request operation) := by
  unfold Offering.actions
  split
  · next hook asked =>
    have told (answer : hook.Replacement) : (api.tell o request hook answer).run.Spends Call.acts [] :=
      ((api.within_tell o request hook answer).mono fun _ looks => looks.reads.not_acts).spends_nil
    rw [api.performOn_of_hook o shape request asked]
    have spends := Engine.spends_bind (o.spends_answer request hook) told
    rwa [List.append_nil] at spends
  · next unasked =>
    cases asked : o.hook request operation with
    | error reason =>
      rw [performOn_eq, asked]
      exact .done _ _
    | ok decision =>
      cases decision with
      | none => exact ((api.reads_of_no_hook o shape request asked).mono fun _ reads => reads.not_acts).spends_nil
      | some hook => exact absurd asked (unasked hook)

end Api

/-! ## Requests -/

/-- The writes that a request may come to, each with the resource whose data source it goes to: a POST to a type may store
an entity, a PUT to one id may change the entity of this id, and a DELETE of one id may remove it. An entity that is
written keeps to the schema of the resource. -/
inductive Registry.Allows (registry : Registry σ) (mount : Mount) (raw : RawRequest) (r : Resource σ) : Call → Prop
  | create {body : Bytes} {type : String} {entity : Entity} (method : raw.method = .post)
    (names : mount.Names raw body [type]) (served : registry.lookup? type = some r) (fields : entity.KeepsTo r.schema) :
    Allows registry mount raw r (.create type entity)
  | update {body : Bytes} {type segment : String} {entity : Entity} (method : raw.method = .put)
    (names : mount.Names raw body [type, segment]) (one : Mount.idsOf segment = [entity.id])
    (served : registry.lookup? type = some r) (fields : entity.KeepsTo r.schema) :
    Allows registry mount raw r (.update type entity)
  | delete {body : Bytes} {type segment id : String} (method : raw.method = .delete)
    (names : mount.Names raw body [type, segment]) (one : Mount.idsOf segment = [id])
    (served : registry.lookup? type = some r) : Allows registry mount raw r (.delete type id)

namespace Registry

variable {registry : Registry σ} {mount : Mount} {raw : RawRequest} {shape : Shape} {request : Request}

/-- Whatever is allowed goes to the resource that is registered under the type of the call. -/
theorem Allows.served {r : Resource σ} {call : Call} (h : registry.Allows mount raw r call) :
    registry.lookup? call.type = some r := by
  cases h with
  | create _ _ served _ => exact served
  | update _ _ _ served _ => exact served
  | delete _ _ _ served => exact served

/-- The write that a controller is asked about is allowed, and an entity that is to be changed has the id that the path
names, whatever the body says. -/
theorem allows_of_asks {r : Resource σ} {operation : Operation} {hook : Hook}
    (routes : mount.Routes raw shape request) (served : registry.lookup? request.resource = some r)
    (picked : Operation.of shape request.method request.ids.length = .ok operation)
    (asked : r.offering.Asks request operation (some hook)) :
    ∀ call ∈ hook.write? request.resource, registry.Allows mount raw r call := by
  have picks := Operation.of_eq_ok_iff.1 picked
  intro call write
  cases asked with
  | list => cases write
  | fetch one => cases write
  | create accepted =>
    obtain rfl := Option.some.inj write
    obtain ⟨rfl, method⟩ := picks.of_create
    cases routes with
    | collection names => exact .create method names served (Entity.keepsTo_ofBody accepted)
  | update one accepted placed =>
    obtain rfl := Option.some.inj write
    have keeps := (Entity.keepsTo_ofBody accepted).under placed
    obtain ⟨-, rfl⟩ := Entity.under_eq_ok_iff.1 placed
    obtain ⟨rfl, method⟩ := picks.of_update
    cases routes with
    | element names _ => exact .update method names one served keeps
  | delete one =>
    obtain rfl := Option.some.inj write
    obtain ⟨rfl, method⟩ := picks.of_delete
    cases routes with
    | element names _ => exact .delete method names one served

/-- A request that is routed is refused at once, or an operation is performed on the resource of the type that it names. -/
theorem perform_cases (registry : Registry σ) (mount : Mount) (shape : Shape) (request : Request) :
    (∃ reason, (registry.api mount).perform shape request = Engine.refuse reason) ∨
      ∃ r operation, registry.lookup? request.resource = some r ∧
        Operation.of shape request.method request.ids.length = .ok operation ∧
        (registry.api mount).perform shape request =
          (registry.api mount).performOn r.offering shape request operation := by
  rw [perform_eq]
  cases registry.lookup? request.resource with
  | none => exact .inl ⟨_, rfl⟩
  | some r =>
    cases Operation.of shape request.method request.ids.length with
    | error reason => exact .inl ⟨reason, rfl⟩
    | ok operation => exact .inr ⟨r, operation, rfl, rfl, rfl⟩

/-- Beside reads, a request that is routed comes to the question to the controller of the type it names, and then to the
write that the controller was asked about. -/
theorem spends_perform (registry : Registry σ) (routes : mount.Routes raw shape request) :
    ∃ actions, ((registry.api mount).perform shape request).run.Spends Call.acts actions ∧
      (actions = [] ∨ ∃ r hook, actions = .consult request.resource request hook :: (hook.write? request.resource).toList ∧
        ∀ call ∈ hook.write? request.resource, registry.Allows mount raw r call) := by
  rcases registry.perform_cases mount shape request with ⟨reason, refused⟩ | ⟨r, operation, served, picked, performed⟩
  · rw [refused]
    exact ⟨[], .done _ _, .inl rfl⟩
  · rw [performed]
    refine ⟨_, (registry.api mount).spends_performOn r.offering shape request operation, ?_⟩
    unfold Offering.actions
    split
    · next hook asked =>
      have addressed : r.offering.typeName = request.resource := typeName_of_lookup? served
      rw [addressed]
      exact .inr ⟨r, hook, rfl, allows_of_asks routes served picked (r.offering.asks_of_hook request asked)⟩
    · exact .inl rfl

/-- A write to a list of ids, or to any other path than one of the three forms, is not allowed, and neither is a write by
any other method. -/
theorem not_allows {r : Resource σ} {call : Call}
    (other : raw.method ≠ .post ∧ raw.method ≠ .put ∧ raw.method ≠ .delete ∨
      ∃ body type segment, mount.Names raw body [type, segment] ∧ (Mount.idsOf segment).length ≠ 1) :
    ¬registry.Allows mount raw r call := by
  intro allowed
  rcases other with ⟨noPost, noPut, noDelete⟩ | ⟨body, type, segment, names, several⟩
  · cases allowed with
    | create method _ _ _ => exact noPost method
    | update method _ _ _ _ => exact noPut method
    | delete method _ _ _ => exact noDelete method
  · have single {type' segment' id : String} {body' : Bytes} (names' : mount.Names raw body' [type', segment'])
        (one : Mount.idsOf segment' = [id]) : False := by
      obtain ⟨-, rfl⟩ : type = type' ∧ segment = segment' := by
        simpa using List.append_cancel_left (names.path.symm.trans names'.path)
      exact several (congrArg List.length one)
    cases allowed with
    | create _ names' _ _ =>
      have same := List.append_cancel_left (names.path.symm.trans names'.path)
      simp at same
    | update _ names' one _ _ => exact single names' one
    | delete _ names' one _ => exact single names' one

end Registry

/-- What a request comes to beside reads: the question to a controller and the write that the controller was asked about,
if it comes to anything at all. -/
theorem Registry.spends_respond (registry : Registry σ) (mount : Mount) (requestId : String) (raw : RawRequest) :
    ∃ actions, ((registry.api mount).respond requestId raw).Spends Call.acts actions ∧
      (actions = [] ∨ ∃ r type request hook, actions = .consult type request hook :: (hook.write? type).toList ∧
        ∀ call ∈ hook.write? type, registry.Allows mount raw r call) := by
  cases received : (registry.api mount).receive raw with
  | error reason =>
    rw [Api.respond_of_refused _ requestId received]
    exact ⟨[], .done _ _, .inl rfl⟩
  | ok routed =>
    obtain ⟨shape, request⟩ := routed
    rw [Api.respond_of_received _ requestId received]
    obtain ⟨actions, spends, none | ⟨r, hook, both, allowed⟩⟩ :=
      registry.spends_perform (Api.routes_of_receive received)
    · exact ⟨actions, spends.map _, .inl none⟩
    · exact ⟨actions, spends.map _, .inr ⟨r, request.resource, request, hook, both, allowed⟩⟩

/-- A request comes to at most one write, and that is one of the three that `Registry.Allows` lists: it goes to the data
source of the type that the path names, an entity that is changed and an id that is removed are those of the path, and the
values of an entity are under names that the schema admits. What a controller is asked about is such a write too. So
nothing is written by another method, or to a list of ids, or while relations are looked up. -/
theorem writes_are_confined (registry : Registry σ) (mount : Mount) (requestId : String) (raw : RawRequest) (s : σ) :
    let run := ((registry.api mount).respond requestId raw).run registry.backend s
    (run.calls.filter Call.writes).length ≤ 1 ∧
      (∀ call ∈ run.calls, call.writes = true →
        ∃ r, registry.Allows mount raw r call ∧ registry.backend call = r.answer call) ∧
      (∀ type request hook, .consult type request hook ∈ run.calls →
        ∀ call ∈ hook.write? type, ∃ r, registry.Allows mount raw r call) ∧
      ((raw.method ≠ .post ∧ raw.method ≠ .put ∧ raw.method ≠ .delete ∨
          ∃ body type segment, mount.Names raw body [type, segment] ∧ (Mount.idsOf segment).length ≠ 1) →
        ∀ call ∈ run.calls, call.writes = false) := by
  intro run
  obtain ⟨actions, spends, made⟩ := registry.spends_respond mount requestId raw
  have sub : (run.calls.filter Call.acts).Sublist actions := spends.calls_sublist registry.backend s
  have among {call : Call} (hcall : call ∈ run.calls) (acts : call.acts = true) : call ∈ actions :=
    sub.subset (List.mem_filter.2 ⟨hcall, acts⟩)
  have confined : ∀ call ∈ run.calls, call.writes = true → ∃ r, registry.Allows mount raw r call := by
    intro call hcall writes
    have hcall := among hcall (by rw [Call.acts, writes, Bool.true_or])
    rcases made with rfl | ⟨r, type, request, hook, rfl, allowed⟩
    · cases hcall
    · rcases List.mem_cons.1 hcall with rfl | hcall
      · cases writes
      · exact ⟨r, allowed call (Option.mem_toList.1 hcall)⟩
  refine ⟨?_, ?_, ?_, ?_⟩
  · rw [← Call.filter_writes_filter_acts]
    refine Nat.le_trans (sub.filter Call.writes).length_le ?_
    rcases made with rfl | ⟨r, type, request, hook, rfl, -⟩
    · exact Nat.zero_le 1
    · rw [List.filter_cons_of_neg Bool.false_ne_true]
      exact Nat.le_trans (List.length_filter_le _ _) Option.length_toList_le
  · intro call hcall writes
    obtain ⟨r, allowed⟩ := confined call hcall writes
    exact ⟨r, allowed, Registry.backend_of_some call allowed.served⟩
  · intro type request hook asked call write
    have asked := among asked rfl
    rcases made with rfl | ⟨r, type', request', hook', rfl, allowed⟩
    · cases asked
    · rcases List.mem_cons.1 asked with same | later
      · cases same
        exact ⟨r, allowed call write⟩
      · cases Hook.writes_of_write? (Option.mem_toList.1 later)
  · intro other call hcall
    refine Bool.eq_false_iff.2 fun writes => ?_
    obtain ⟨r, allowed⟩ := confined call hcall writes
    exact Registry.not_allows other allowed

namespace Blog

/-- A request to give the second post another title. Its body names no id. -/
def retitling : RawRequest :=
  .plain .put "/posts/2" "\x7b\"posts\": \x7b\"title\": \"New\"\x7d\x7d"

/-- A request to remove two posts at once. -/
def clearing : RawRequest :=
  .plain .delete "/posts/1,2" ""

end Blog

/-- When the second post is to be retitled, the controller is asked and then the data source is, to change just that post.
When two posts are to be removed at once, nothing is written. -/
theorem blog_writes_confined :
    let registry := Blog.served (some Blog.counter)
    let retitled := ((registry.api .root).respond "7" Blog.retitling).run registry.backend 0
    let cleared := ((registry.api .root).respond "8" Blog.clearing).run registry.backend 0
    retitled.calls.map Call.writes = [false, true] ∧
      (∃ call ∈ retitled.calls, call.writes = true ∧ ∃ r, registry.Allows .root Blog.retitling r call) ∧
      ∀ call ∈ cleared.calls, call.writes = false := by
  intro registry retitled cleared
  have asked : retitled.calls.map Call.writes = [false, true] := by decide +kernel
  have wrote : true ∈ retitled.calls.map Call.writes := by rw [asked]; decide
  obtain ⟨call, hcall, writes⟩ := List.mem_map.1 wrote
  obtain ⟨-, confined, -⟩ := writes_are_confined registry .root "7" Blog.retitling 0
  obtain ⟨r, allowed, -⟩ := confined call hcall writes
  obtain ⟨-, -, -, idle⟩ := writes_are_confined registry .root "8" Blog.clearing 0
  have several : Mount.root.Names Blog.clearing [] ["posts", "1,2"] := ⟨rfl, by decide +kernel⟩
  exact ⟨asked, ⟨call, hcall, writes, r, allowed⟩, idle (.inr ⟨[], "posts", "1,2", several, by decide +kernel⟩)⟩

end ResourceApi

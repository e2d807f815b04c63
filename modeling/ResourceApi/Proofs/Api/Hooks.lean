import ResourceApi.Proofs.Api.Performance
import ResourceApi.Proofs.Registry.Table

/-!
# What controllers decide

A request comes to at most one decision, of the controller of the addressed type, and before any data source is called
(`Registry.hook?`). If the controller fails, that is the end; if it goes on, all goes on as without it; and if it answers,
all goes on as if the data source had given the answer, but without asking it (`controllers_decide_first`).
-/

namespace ResourceApi

variable {σ α β : Type}

/-- The controller that decides on a request, and what it is asked: there is one if the addressed type has a controller and
the method an operation that controllers decide on, and once all that the operation needs was accepted. -/
def Registry.hook? (registry : Registry σ) (shape : Shape) (request : Request) : Option (Controller σ × Hook) := do
  let r ← registry.lookup? request.resource
  let controller ← r.controller
  let operation ← (Operation.of shape request.method request.ids.length).toOption
  let asked ← (r.offering.hook request operation).toOption
  let hook ← asked
  return (controller, hook)

/-- A result that has a value is this value. -/
theorem ok_of_toOption {ε : Type} {x : Except ε α} {a : α} (h : x.toOption = some a) : x = .ok a := by
  cases x with
  | error reason => cases h
  | ok b => exact congrArg Except.ok (Option.some.inj h)

/-- A request comes to a decision if all that it takes is there. -/
theorem Registry.hook?_eq_some_iff {registry : Registry σ} {shape : Shape} {request : Request} {c : Controller σ}
    {hook : Hook} :
    registry.hook? shape request = some (c, hook) ↔
      ∃ r operation, registry.lookup? request.resource = some r ∧ r.controller = some c ∧
        Operation.of shape request.method request.ids.length = .ok operation ∧
        r.offering.hook request operation = .ok (some hook) := by
  constructor
  · intro h
    obtain ⟨r, hr, h⟩ := Option.bind_eq_some_iff.1 h
    obtain ⟨controller, hcontroller, h⟩ := Option.bind_eq_some_iff.1 h
    obtain ⟨operation, hoperation, h⟩ := Option.bind_eq_some_iff.1 h
    obtain ⟨asked, hasked, h⟩ := Option.bind_eq_some_iff.1 h
    obtain ⟨_, rfl, h⟩ := Option.bind_eq_some_iff.1 h
    cases h
    exact ⟨r, operation, hr, hcontroller, ok_of_toOption hoperation, ok_of_toOption hasked⟩
  · rintro ⟨r, operation, hr, hcontroller, hoperation, hasked⟩
    simp only [hook?, hr, hcontroller, hoperation, hasked, Option.bind_eq_bind, Option.bind_some, Except.toOption]
    rfl

/-- The exchanges in which a data source gives an answer. To an entity that it stores it first gives an id, under which the
entity is then read. -/
def Hook.exchanges (type : String) (request : Request) (given : String) :
    (hook : Hook) → hook.Replacement → List Exchange
  | .list, entities => [⟨.list type request, .ok entities⟩]
  | .fetch id, entity => [⟨.fetch type id request, .ok entity⟩]
  | .create entity, created => [⟨.create type entity, .ok given⟩, ⟨.fetch type given request, .ok created⟩]
  | .update entity, done => [⟨.update type entity, .ok done⟩]
  | .delete id, done => [⟨.delete type id, .ok done⟩]

/-- Whether there is nothing to tell of an answer but that it was given. -/
def Hook.isSilent : Hook → Bool
  | .list | .fetch _ | .create _ => false
  | .update _ | .delete _ => true

/-- A controller that always goes on, and changes nothing that makes a difference. -/
def Controller.Proceeds (c : Controller σ) (same : σ → σ → Prop) : Prop :=
  ∀ request hook s, (c.consult request hook s).1 = .ok .proceed ∧ same (c.consult request hook s).2 s

/-! ## Decisions -/

/-- How an operation goes on from the reply of a controller. -/
def Engine.decided (source : Engine α) (tell : α → Engine β) : Except Fault (Verdict α) → Plan (Except Fault β)
  | .error fault => .done (.error fault)
  | .ok .proceed => (source >>= tell).run
  | .ok (.replace answer) => (tell answer).run

/-- However the controller has decided, what comes next keeps to calls of a kind if both what the data source does and what is
told do. -/
theorem Engine.within_decided {kind : Call → Prop} {source : Engine α} {tell : α → Engine β}
    (hsource : source.run.Within kind) (htell : ∀ a, (tell a).run.Within kind) (reply : Except Fault (Verdict α)) :
    (Engine.decided source tell reply).Within kind := by
  cases reply with
  | error fault => trivial
  | ok verdict =>
    cases verdict with
    | proceed => exact Engine.within_bind hsource htell
    | replace answer => exact htell answer

namespace Offering

variable (o : Offering) (request : Request)

/-- Where there is a controller, it is asked first. -/
theorem run_answer (controlled : o.controlled = true) (hook : Hook) (source : Engine hook.Replacement)
    (tell : hook.Replacement → Engine β) :
    (o.answer request hook source >>= tell).run =
      .ask (.consult o.typeName request hook) (Engine.decided source tell) := by
  unfold answer consult
  rw [if_pos controlled]
  refine congrArg (Plan.ask _) (funext fun reply => ?_)
  cases reply with
  | error fault => rfl
  | ok verdict => cases verdict <;> rfl

/-- A data source that gives an answer gives it by these exchanges. -/
theorem own_resumes (given : String) (hook : Hook) (answer : hook.Replacement) :
    (o.own request hook).run.Resumes (hook.exchanges o.typeName request given answer) (.done (.ok answer)) := by
  cases hook with
  | list => exact Engine.resumes_call _ _
  | fetch id => exact Engine.resumes_call _ _
  | create entity =>
    have stored := Engine.resumes_bind (Engine.resumes_call (.create o.typeName entity) given)
      fun id => Engine.fetch o.typeName id request
    exact stored.trans (Engine.resumes_call _ _)
  | update entity => exact Engine.resumes_call _ _
  | delete id => exact Engine.resumes_call _ _

end Offering

/-! ## Requests -/

namespace Registry

variable (registry : Registry σ) (mount : Mount) (shape : Shape) (request : Request)

/-- A request is performed on the resource that it addresses. -/
theorem perform_eq :
    (registry.api mount).perform shape request =
      match registry.lookup? request.resource with
      | none => Engine.refuse (.unknownType request.resource)
      | some r => Engine.accept (Operation.of shape request.method request.ids.length) >>=
          (registry.api mount).performOn r.offering shape request := by
  have found : (registry.api mount).catalogue.lookup? request.resource =
      (registry.lookup? request.resource).map Resource.offering := registry.catalogue_lookup? _
  unfold Api.perform Catalogue.find
  rw [found]
  cases registry.lookup? request.resource <;> rfl

/-- A request that addresses a resource which is there, by a method that picks an operation, is performed so. -/
theorem perform_of_served {r : Resource σ} (served : registry.lookup? request.resource = some r) {operation : Operation}
    (picked : Operation.of shape request.method request.ids.length = .ok operation) :
    (registry.api mount).perform shape request = (registry.api mount).performOn r.offering shape request operation := by
  rw [perform_eq, served, picked]
  rfl

/-- Without the controller of a type, a request is performed in the same way, only that the controller is not asked. -/
theorem perform_withoutController (type : String) :
    ((registry.withoutController type).api mount).perform shape request =
      match registry.lookup? request.resource with
      | none => Engine.refuse (.unknownType request.resource)
      | some r => Engine.accept (Operation.of shape request.method request.ids.length) >>=
          (registry.api mount).performOn (r.bareAs type).offering shape request := by
  have performOn (o : Offering) :
      ((registry.withoutController type).api mount).performOn o shape request =
        (registry.api mount).performOn o shape request :=
    funext (Api.performOn_congr (registry.schema?_withoutController type) mount o shape request)
  rw [perform_eq, lookup?_withoutController]
  cases registry.lookup? request.resource with
  | none => rfl
  | some r => simp only [Option.map_some, performOn]

/-- What is asked of a resource that is left without its controller. -/
theorem offering_bareAs {type : String} {r : Resource σ} (h : registry.lookup? type = some r) :
    (r.bareAs type).offering = r.offering.bare := by
  rw [Resource.bareAs, if_pos (beq_iff_eq.2 (typeName_of_lookup? h))]
  rfl

/-- A request that comes to no decision is performed as without the controller of the addressed type. -/
theorem perform_of_no_hook (h : registry.hook? shape request = none) :
    (registry.api mount).perform shape request =
      ((registry.withoutController request.resource).api mount).perform shape request := by
  rw [perform_eq, perform_withoutController]
  cases hr : registry.lookup? request.resource with
  | none => rfl
  | some r =>
    simp only [offering_bareAs registry hr]
    cases hoperation : Operation.of shape request.method request.ids.length with
    | error reason => rfl
    | ok operation =>
      simp only [Engine.accept_ok_bind]
      cases hcontroller : r.controller with
      | none =>
        have bare : r.offering.bare = r.offering := by
          unfold Offering.bare Resource.offering
          rw [hcontroller]
          rfl
        rw [bare]
      | some c =>
        refine (Api.performOn_bare_of_ne _ _ shape request fun hook hasked => ?_).symm
        have decided : registry.hook? shape request = some (c, hook) :=
          hook?_eq_some_iff.2 ⟨r, operation, hr, hcontroller, hoperation, hasked⟩
        rw [h] at decided
        cases decided

/-- A request that comes to a decision begins with it: what follows is decided. Without the controller, the request begins
with what the data source itself does. -/
theorem perform_of_hook {c : Controller σ} {hook : Hook} (h : registry.hook? shape request = some (c, hook)) :
    ∃ o : Offering, o.typeName = request.resource ∧
      registry.backend (.consult request.resource request hook) = c.consult request hook ∧
      ((registry.api mount).perform shape request).run = .ask (.consult request.resource request hook)
        (Engine.decided (o.own request hook) ((registry.api mount).tell o request hook)) ∧
      ((registry.withoutController request.resource).api mount).perform shape request =
        o.own request hook >>= (registry.api mount).tell o request hook := by
  obtain ⟨r, operation, hr, hcontroller, hoperation, hasked⟩ := hook?_eq_some_iff.1 h
  have addressed : r.offering.typeName = request.resource := typeName_of_lookup? hr
  have controlled : r.offering.controlled = true := by
    unfold Resource.offering
    rw [hcontroller]
    rfl
  refine ⟨r.offering, addressed, ?_, ?_, ?_⟩
  · rw [backend_of_some (.consult request.resource request hook) hr]
    change r.consult request hook = c.consult request hook
    unfold Resource.consult
    rw [hcontroller]
  · rw [perform_eq, hr]
    simp only [hoperation, Engine.accept_ok_bind]
    rw [Api.performOn_of_hook _ _ shape request hasked, r.offering.run_answer request controlled, addressed]
  · rw [perform_withoutController, hr]
    simp only [offering_bareAs registry hr, hoperation, Engine.accept_ok_bind]
    exact Api.performOn_bare_of_hook _ _ shape request hasked

/-- The run of a request that comes to a decision is that of what follows from it, after the exchange with the
controller. -/
theorem run_of_hook {c : Controller σ} {hook : Hook} (h : registry.hook? shape request = some (c, hook)) (s : σ) :
    ∃ o : Offering, o.typeName = request.resource ∧
      ((registry.api mount).perform shape request).run.run registry.backend s =
        ((Engine.decided (o.own request hook) ((registry.api mount).tell o request hook)
          (c.consult request hook s).1).run registry.backend (c.consult request hook s).2).after
            ⟨.consult request.resource request hook, (c.consult request hook s).1⟩ ∧
      ((registry.withoutController request.resource).api mount).perform shape request =
        o.own request hook >>= (registry.api mount).tell o request hook := by
  obtain ⟨o, hname, hbackend, hperform, hbare⟩ := registry.perform_of_hook mount shape request h
  refine ⟨o, hname, ?_, hbare⟩
  rw [hperform, Plan.run_ask, hbackend]

/-- The only controller that is asked is that of the addressed type. -/
theorem within_perform :
    ((registry.api mount).perform shape request).run.Within fun call =>
      call.consults = true → call.type = request.resource ∧
        ∃ r, registry.lookup? request.resource = some r ∧ r.controller.isSome = true := by
  rw [perform_eq]
  cases hr : registry.lookup? request.resource with
  | none => exact Plan.within_pure _
  | some r =>
    refine Engine.within_bind (Engine.within_accept _) fun operation => ?_
    refine (Api.within_performOn _ r.offering shape request operation).mono fun call involved asks => ?_
    obtain ⟨controlled, addressed⟩ := involved asks
    exact ⟨addressed.trans (typeName_of_lookup? hr), r, rfl, controlled⟩

/-- Without that one, none is asked. -/
theorem within_perform_withoutController :
    (((registry.withoutController request.resource).api mount).perform shape request).run.Within
      fun call => call.consults = false := by
  refine ((registry.withoutController request.resource).within_perform mount shape request).mono fun call involved => ?_
  refine Bool.eq_false_iff.2 fun asks => ?_
  obtain ⟨-, r, hr, controlled⟩ := involved asks
  rw [lookup?_withoutController] at hr
  obtain ⟨r, found, rfl⟩ := Option.map_eq_some_iff.1 hr
  have bare : (r.bareAs request.resource).offering.controlled = false := by
    rw [registry.offering_bareAs found]
    rfl
  exact Bool.false_ne_true (bare.symm.trans controlled)

/-- So it makes no difference whether the data sources answer beside a controller or without it. -/
theorem run_perform_withoutController (s : σ) :
    (((registry.withoutController request.resource).api mount).perform shape request).run.run registry.backend s =
      (((registry.withoutController request.resource).api mount).perform shape request).run.run
        (registry.withoutController request.resource).backend s := by
  refine Plan.run_congr (fun call h => ?_) (registry.within_perform_withoutController mount shape request) s
  refine (registry.backend_withoutController request.resource fun asks => ?_).symm
  rw [h] at asks
  cases asks

/-! ## Controllers that always go on -/

/-- A controller of another type than the addressed one is not asked, and may as well not be there. -/
theorem run_withoutController_of_ne {type : String} (other : request.resource ≠ type) (s : σ) :
    ((registry.api mount).perform shape request).run.run registry.backend s =
      (((registry.withoutController type).api mount).perform shape request).run.run
        (registry.withoutController type).backend s := by
  have performed : ((registry.withoutController type).api mount).perform shape request =
      (registry.api mount).perform shape request := by
    rw [perform_withoutController, perform_eq]
    cases hr : registry.lookup? request.resource with
    | none => rfl
    | some r =>
      have name : ¬(r.typeName == type) = true := by
        rw [typeName_of_lookup? hr, beq_iff_eq]
        exact other
      simp only [Resource.bareAs, if_neg name]
  rw [performed]
  refine Plan.run_congr (fun call h => ?_) (registry.within_perform mount shape request) s
  refine (registry.backend_withoutController type fun asks => ?_).symm
  rw [(h asks).1]
  exact other

/-- A controller that always goes on may as well not be there, if it changes nothing that makes a difference to the data
sources: the outcome is the same, and so are the exchanges with data sources. -/
theorem run_of_proceeds {type : String} {same : σ → σ → Prop} (refl : ∀ s, same s s)
    (unseen : registry.backend.Alike (fun call => call.consults = false) same registry.backend)
    (proceeds : ∀ r ∈ registry.resources, r.typeName = type → ∀ c, r.controller = some c → c.Proceeds same) (s : σ) :
    let run := ((registry.api mount).perform shape request).run.run registry.backend s
    let plain := (((registry.withoutController type).api mount).perform shape request).run.run
      (registry.withoutController type).backend s
    run.value = plain.value ∧
      run.exchanges.filter (fun e => !e.call.consults) = plain.exchanges.filter (fun e => !e.call.consults) ∧
      same run.state plain.state := by
  intro run plain
  by_cases addressed : request.resource = type
  · subst addressed
    have within := registry.within_perform_withoutController mount shape request
    have hplain := registry.run_perform_withoutController mount shape request s
    cases h : registry.hook? shape request with
    | none =>
      have hrun : run = plain := by
        simp only [run, plain, registry.perform_of_no_hook mount shape request h, hplain]
      rw [hrun]
      exact ⟨rfl, rfl, refl _⟩
    | some asked =>
      obtain ⟨c, hook⟩ := asked
      obtain ⟨o, -, hdecided, hbare⟩ := registry.run_of_hook mount shape request h s
      obtain ⟨r, -, hr, hcontroller, -, -⟩ := hook?_eq_some_iff.1 h
      obtain ⟨hproceed, hsame⟩ := proceeds r (mem_of_lookup? hr) (typeName_of_lookup? hr) c hcontroller request hook s
      have hrun : run = ((((registry.withoutController request.resource).api mount).perform shape request).run.run
          registry.backend (c.consult request hook s).2).after
            ⟨.consult request.resource request hook, .ok .proceed⟩ := by
        rw [hproceed] at hdecided
        rw [hbare]
        exact hdecided
      obtain ⟨hvalue, hexchanges, hstate⟩ := Plan.run_alike unseen within hsame
      rw [hplain] at hvalue hexchanges hstate
      rw [hrun]
      refine ⟨hvalue, ?_, hstate⟩
      exact (List.filter_cons_of_neg Bool.false_ne_true).trans (congrArg (List.filter _) hexchanges)
  · have hrun : run = plain := registry.run_withoutController_of_ne mount shape request addressed s
    rw [hrun]
    exact ⟨rfl, rfl, refl _⟩

end Registry

/-- To tables the state makes no difference. -/
theorem Registry.IsTables.alike {registry : Registry σ} (tables : registry.IsTables) :
    registry.backend.Alike (fun call => call.consults = false) (fun _ _ => True) registry.backend := by
  intro call data s t _
  refine ⟨?_, trivial⟩
  cases hr : registry.lookup? call.type with
  | none =>
    rw [backend_of_none call hr]
    rfl
  | some r =>
    obtain ⟨entities, hsource⟩ := tables r (mem_of_lookup? hr)
    rw [backend_of_some call hr]
    cases call with
    | consult => cases data
    | _ =>
      simp only [Resource.answer, hsource]
      rfl

/-! ## All requests -/

/-- What controllers decide on, in every state of every registry. All calls of a request but perhaps the first go to data
sources, and the first goes to a controller only if the request comes to a decision. A request that comes to none is
performed as without a controller. If the controller fails, the request ends with its fault and nothing else is called. If
it goes on, what follows is the run without the controller, from the state that the controller leaves. If it answers, what
follows looks up relations and does nothing else, and it is what would follow without the controller, had the data source
itself been called and given that answer; where there is nothing to tell of the answer, nothing is called.

So a controller that always goes on, and changes nothing that makes a difference to data sources, makes no difference
itself, whichever type it belongs to. -/
theorem controllers_decide_first (registry : Registry σ) (mount : Mount) (shape : Shape) (request : Request) (s : σ) :
    let run := ((registry.api mount).perform shape request).run.run registry.backend s
    let bare := registry.withoutController request.resource
    let plain := ((bare.api mount).perform shape request).run
    (∃ rest, run.calls = (registry.hook? shape request).toList.map (fun asked =>
        .consult request.resource request asked.2) ++ rest ∧ ∀ call ∈ rest, call.consults = false) ∧
      (registry.hook? shape request = none → run = plain.run bare.backend s) ∧
      (∀ c hook, registry.hook? shape request = some (c, hook) →
        (∀ fault s', c.consult request hook s = (.error fault, s') →
          run = ⟨.error fault, [⟨.consult request.resource request hook, .error fault⟩], s'⟩) ∧
        (∀ s', c.consult request hook s = (.ok .proceed, s') →
          run = (plain.run bare.backend s').after ⟨.consult request.resource request hook, .ok .proceed⟩) ∧
        ∀ answer s', c.consult request hook s = (.ok (.replace answer), s') →
          ∃ rest : Plan (Except Fault Outcome),
            run = (rest.run registry.backend s').after
                ⟨.consult request.resource request hook, .ok (.replace answer)⟩ ∧
              rest.Within (Call.LooksUp request.headers) ∧
              (∀ given, plain.Resumes (hook.exchanges request.resource request given answer) rest) ∧
              (hook.isSilent = true → rest = .done (.ok (.noContent none)))) ∧
      ∀ (type : String) (same : σ → σ → Prop), (∀ s, same s s) →
        registry.backend.Alike (fun call => call.consults = false) same registry.backend →
        (∀ r ∈ registry.resources, r.typeName = type → ∀ c, r.controller = some c → c.Proceeds same) →
        let without := (((registry.withoutController type).api mount).perform shape request).run.run
          (registry.withoutController type).backend s
        run.value = without.value ∧
          run.exchanges.filter (fun e => !e.call.consults) = without.exchanges.filter (fun e => !e.call.consults) ∧
          same run.state without.state := by
  intro run bare plain
  have hplain : plain.Within fun call => call.consults = false :=
    registry.within_perform_withoutController mount shape request
  have hrun : registry.hook? shape request = none → run = plain.run bare.backend s := by
    intro h
    simp only [run, registry.perform_of_no_hook mount shape request h]
    exact registry.run_perform_withoutController mount shape request s
  refine ⟨?_, hrun, ?_, ?_⟩
  · cases h : registry.hook? shape request with
    | none =>
      refine ⟨run.calls, rfl, fun call hcall => ?_⟩
      rw [hrun h] at hcall
      obtain ⟨e, he, rfl⟩ := List.mem_map.1 hcall
      exact hplain.of_mem_exchanges s e he
    | some asked =>
      obtain ⟨o, -, hdecided, -⟩ := registry.run_of_hook mount shape request h s
      have follows := Engine.within_decided (o.within_own request asked.2)
        (fun answer => ((registry.api mount).within_tell o request asked.2 answer).mono fun _ h => h.not_consults)
        (asked.1.consult request asked.2 s).1
      refine ⟨_, congrArg Run.calls hdecided, fun call hcall => ?_⟩
      obtain ⟨e, he, rfl⟩ := List.mem_map.1 hcall
      exact follows.of_mem_exchanges _ e he
  · intro c hook h
    obtain ⟨o, hname, hdecided, hbare⟩ := registry.run_of_hook mount shape request h s
    refine ⟨fun fault s' hreply => ?_, fun s' hreply => ?_, fun answer s' hreply => ?_⟩
    · rw [hreply] at hdecided
      exact hdecided
    · rw [hreply] at hdecided
      -- A plan that consults nobody runs on the registry as it does without the controller.
      rw [← registry.run_perform_withoutController mount shape request s']
      simp only [hbare]
      exact hdecided
    · rw [hreply] at hdecided
      refine ⟨_, hdecided, (registry.api mount).within_tell o request hook answer, fun given => ?_, fun silent => ?_⟩
      · have resumes := Engine.resumes_bind (o.own_resumes request given hook answer)
          ((registry.api mount).tell o request hook)
        rw [hname, ← hbare] at resumes
        exact resumes
      · cases hook with
        | list => cases silent
        | fetch id => cases silent
        | create entity => cases silent
        | update entity => rfl
        | delete id => rfl
  · intro type same refl unseen proceeds
    exact registry.run_of_proceeds mount shape request refl unseen proceeds s

/-- A controller that answers for the posts of the blog with the first of them: the author and the comment are looked up,
as if the data source had found that post alone. One that only counts how often the posts are listed is not noticed. -/
theorem blog_controllers_decide :
    let guarded := Blog.served (some Blog.guard)
    let run := ((guarded.api .root).perform .collection Blog.request).run.run guarded.backend 0
    let plain := (((guarded.withoutController "posts").api .root).perform .collection Blog.request).run
    let counted := ((Blog.served (some Blog.counter)).api .root).perform .collection Blog.request
    let without := (((Blog.served (some Blog.counter)).withoutController "posts").api .root).perform .collection
      Blog.request
    guarded.hook? .collection Blog.request = some (Blog.guard, .list) ∧
      (∃ rest : Plan (Except Fault Outcome),
        run = (rest.run guarded.backend 1).after
            ⟨.consult "posts" Blog.request .list, .ok (.replace [Blog.firstPost.entity])⟩ ∧
          rest.Within (Call.LooksUp Blog.request.headers) ∧
          plain.Resumes [⟨.list "posts" Blog.request, .ok [Blog.firstPost.entity]⟩] rest) ∧
      run.calls.length = 4 ∧
      (counted.run.run (Blog.served (some Blog.counter)).backend 0).value =
        (without.run.run ((Blog.served (some Blog.counter)).withoutController "posts").backend 0).value := by
  intro guarded run plain counted without
  have asked : guarded.hook? .collection Blog.request = some (Blog.guard, .list) := rfl
  obtain ⟨-, -, decided, -⟩ := controllers_decide_first guarded .root .collection Blog.request 0
  obtain ⟨rest, hrun, lookups, resumes, -⟩ := (decided Blog.guard .list asked).2.2 [Blog.firstPost.entity] 1 rfl
  refine ⟨asked, ⟨rest, hrun, lookups, resumes ""⟩, by decide +kernel, ?_⟩
  obtain ⟨-, -, -, unnoticed⟩ :=
    controllers_decide_first (Blog.served (some Blog.counter)) .root .collection Blog.request 0
  refine (unnoticed "posts" (fun _ _ => True) (fun _ => trivial) (Blog.isTables _).alike ?_).1
  intro r hr _ c hc request hook s
  simp only [Blog.served, List.mem_cons, List.not_mem_nil, or_false] at hr
  rcases hr with rfl | rfl | rfl
  · obtain rfl : Blog.counter = c := Option.some.inj hc
    cases hook <;> exact ⟨rfl, trivial⟩
  · cases hc
  · cases hc

end ResourceApi

import ResourceApi.Proofs.Api.Responding
import ResourceApi.Proofs.Plan.Acting

/-!
# Conversations

A client sends one request after another, and each is answered before the next (`Api.respondAll`). What one request takes
from a state to the next, a conversation takes from its first state to its last (`Api.conversation_of_steps`).
-/

namespace ResourceApi

variable {σ δ : Type}

/-- Respond to requests one after another. Each comes with the id that it is given. -/
def Api.respondAll (api : Api) (requests : List (String × RawRequest)) : Plan (List Response) :=
  Plan.forEach (fun request => api.respond request.1 request.2) requests

/-- Requests are answered one after another by steps from what is known to what is known after it. -/
inductive Conversation (Step : String × RawRequest → δ → Response → δ → Prop) :
    List (String × RawRequest) → δ → List Response → δ → Prop
  | nil (d : δ) : Conversation Step [] d [] d
  | cons {request : String × RawRequest} {requests : List (String × RawRequest)} {response : Response}
    {responses : List Response} {d d' d'' : δ} (step : Step request d response d')
    (rest : Conversation Step requests d' responses d'') :
    Conversation Step (request :: requests) d (response :: responses) d''

/-- What every step says of the request and the response holds of each request and the response to it. -/
theorem Conversation.forall_zip {said : String × RawRequest → Response → Prop} {requests : List (String × RawRequest)}
    {responses : List Response} {d d' : δ}
    (h : Conversation (fun request _ response _ => said request response) requests d responses d') :
    ∀ p ∈ requests.zip responses, said p.1 p.2 := by
  induction h with
  | nil d => exact List.forall_mem_nil _
  | cons step rest ih => exact List.forall_mem_cons.2 ⟨step, ih⟩

namespace Api

variable (api : Api) (backend : Backend σ)

/-- A request is responded to before the next. -/
theorem run_respondAll_cons (request : String × RawRequest) (requests : List (String × RawRequest)) (s : σ) :
    let first := (api.respond request.1 request.2).run backend s
    let rest := (api.respondAll requests).run backend first.state
    (api.respondAll (request :: requests)).run backend s =
      ⟨first.value :: rest.value, first.exchanges ++ rest.exchanges, rest.state⟩ := by
  unfold respondAll
  rw [Plan.forEach, Plan.run_bind]
  simp only [Plan.run_bind, Plan.run, List.append_nil]

/-- If every request of a conversation takes states of a kind to such states, by a step of what is known of them, then so
does the conversation. -/
theorem conversation_of_steps {Step : String × RawRequest → δ → Response → δ → Prop} {kind : σ → Prop} (view : σ → δ)
    {requests : List (String × RawRequest)}
    (step : ∀ request ∈ requests, ∀ s, kind s → let run := (api.respond request.1 request.2).run backend s
      kind run.state ∧ Step request (view s) run.value (view run.state)) {s : σ} (h : kind s) :
    let run := (api.respondAll requests).run backend s
    kind run.state ∧ Conversation Step requests (view s) run.value (view run.state) := by
  induction requests generalizing s with
  | nil => exact ⟨h, .nil _⟩
  | cons request requests ih =>
    -- The state after the first request is of the kind again, so the rest is a conversation from there.
    obtain ⟨kept, taken⟩ := step request List.mem_cons_self s h
    obtain ⟨last, more⟩ := ih (fun other later => step other (List.mem_cons_of_mem _ later)) kept
    rw [run_respondAll_cons]
    exact ⟨last, .cons taken more⟩

/-- What every request of a conversation keeps true of the state is true in the end. -/
theorem state_of_steps {kind : σ → Prop} {requests : List (String × RawRequest)}
    (step : ∀ request ∈ requests, ∀ s, kind s → kind ((api.respond request.1 request.2).run backend s).state) {s : σ}
    (h : kind s) : kind ((api.respondAll requests).run backend s).state :=
  (@conversation_of_steps σ σ api backend (fun _ _ _ _ => True) kind id requests
    (fun request among s h => ⟨step request among s h, trivial⟩) s h).1

/-- What a received request does is told as a response. -/
theorem run_respond_eq_act {raw : RawRequest} {shape : Shape} {request : Request}
    (received : api.receive raw = .ok (shape, request)) (requestId : String) (s : σ) :
    let run := (api.respond requestId raw).run backend s
    let acted := (api.perform shape request).act backend s
    run.value = (Response.ofResult requestId acted.1).finish requestId ∧ run.state = acted.2 := by
  have responded := api.run_respond_of_received requestId received backend s
  exact ⟨congrArg Run.value responded, congrArg Run.state responded⟩

end Api

end ResourceApi

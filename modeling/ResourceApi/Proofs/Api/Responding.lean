import ResourceApi.Proofs.Plan.Resumption
import ResourceApi.Proofs.Route.Paths

/-!
# What is sent

A request that is received is performed, and whatever comes of it is sent as a response (`Response.ofResult`); a request
that is not received is refused before anything is called (`Api.respond_of_refused`, `Api.respond_of_received`). So a
response tells what came of a request, and of the two things that can still fail after that, only the second does: the
path of a created entity may not stand in a header field (`Response.ofResult_created`).
-/

namespace ResourceApi

variable {σ : Type}

/-- Whatever the library itself refuses is a failure. -/
theorem Refusal.le_status_fault (reason : Refusal) : 400 ≤ reason.fault.status := by
  cases reason <;> exact Nat.le_of_ble_eq_true rfl

namespace Response

/-- The response that tells what came of a request. -/
def ofResult (requestId : String) : Except Fault Outcome → Response
  | .error fault => fault.response requestId
  | .ok outcome =>
    match outcome.response requestId with
    | .ok response => response
    | .error reason => reason.fault.response requestId

/-! ## Status and body -/

section

variable (r : Response) (requestId : String)

@[simp] theorem status_setHeader (name : String) (value : Bytes) : (r.setHeader name value).status = r.status := rfl

@[simp] theorem status_identify : (r.identify requestId).status = r.status := by
  unfold identify
  split <;> rfl

/-- What all responses carry goes into the header fields alone. -/
@[simp] theorem status_finish : (r.finish requestId).status = r.status := by simp [finish]

end

/-- A fault that is told has its status, and one that is not told is the failure of the server. -/
theorem status_fault (fault : Fault) (requestId : String) :
    (fault.response requestId).status = if fault.isExplained then fault.status else .internalServerError := by
  unfold Fault.response Fault.document?
  split <;> rename_i h <;> split at h <;> simp_all [ofDocument, bare]

/-- A fault that says so with its status is told as a failure. -/
theorem le_status_fault {fault : Fault} (h : 400 ≤ fault.status) (requestId : String) :
    400 ≤ (fault.response requestId).status := by
  rw [status_fault]
  split
  · exact h
  · decide

/-- The document of a created entity is sent with the path of the entity, if the path may stand in a header field. If it may
not, the server has failed. -/
theorem ofResult_created (requestId : String) (status : Status) (document : Document) (path : String) :
    ofResult requestId (.ok (.document status document (some path))) =
      match Headers.value? path with
      | some value => (ofDocument status document.json.bytes requestId).setHeader "location" value
      | none => bare .internalServerError requestId := by
  simp only [ofResult, Outcome.response, Outcome.locate]
  cases Headers.value? path <;> rfl

end Response

namespace Api

variable (api : Api) (requestId : String) {raw : RawRequest}

/-- A request that is not received is refused at once. -/
theorem respond_of_refused {reason : Refusal} (h : api.receive raw = .error reason) :
    api.respond requestId raw = pure ((reason.fault.response requestId).finish requestId) := by
  unfold respond handle
  rw [h]
  rfl

/-- A request that is received is performed, and the response tells what came of it. -/
theorem respond_of_received {shape : Shape} {request : Request} (h : api.receive raw = .ok (shape, request)) :
    api.respond requestId raw =
      (fun result => (Response.ofResult requestId result).finish requestId) <$> (api.perform shape request).run := by
  unfold respond handle
  rw [h, map_eq_pure_bind, Engine.accept_ok_bind]
  simp only [ExceptT.run_bind, bind_assoc]
  refine congrArg ((api.perform shape request).run >>= ·) (funext fun result => ?_)
  cases result with
  | error fault => rfl
  | ok outcome =>
    simp only [Response.ofResult]
    cases outcome.response requestId <;> rfl

/-- A response to a request that is received comes from a run of what is performed. -/
theorem run_respond_of_received {shape : Shape} {request : Request} (h : api.receive raw = .ok (shape, request))
    (backend : Backend σ) (s : σ) :
    (api.respond requestId raw).run backend s =
      let run := (api.perform shape request).run.run backend s
      ⟨(Response.ofResult requestId run.value).finish requestId, run.exchanges, run.state⟩ := by
  rw [api.respond_of_received requestId h, Plan.run_map]

/-- A request that is refused at once is answered without a call. -/
theorem run_respond_of_refused {reason : Refusal} (h : api.receive raw = .error reason) (backend : Backend σ) (s : σ) :
    (api.respond requestId raw).run backend s = ⟨(reason.fault.response requestId).finish requestId, [], s⟩ := by
  rw [api.respond_of_refused requestId h]
  rfl

end Api

end ResourceApi

import ResourceApi.Proofs.Api.Location
import ResourceApi.Proofs.Http.Sending
import ResourceApi.Proofs.Json.Printer

/-!
# The forms of responses

What a request comes to is an outcome or a fault (`Api.outcome`), and the response tells it. So a response has one of four
forms, and its status and its body alone say which (`Response.Has.unique`): a document, nothing at all, errors, or a failure
of which nothing is told. Which of them it is depends on what the request came to (`Response.Tells`), and whatever that is
there is a response of just one form (`answered_in_one_form`).
-/

namespace ResourceApi

variable {σ : Type}

/-- What a request comes to. -/
def Api.outcome (api : Api) (raw : RawRequest) : Engine Outcome := do
  let (shape, request) ← Engine.accept (api.receive raw)
  api.perform shape request

/-- The response tells what a request comes to. -/
theorem Api.respond_eq (api : Api) (requestId : String) (raw : RawRequest) :
    api.respond requestId raw =
      (fun result => (Response.ofResult requestId result).finish requestId) <$> (api.outcome raw).run := by
  unfold outcome
  cases received : api.receive raw with
  | error reason =>
    rw [api.respond_of_refused requestId received]
    rfl
  | ok routed => exact api.respond_of_received requestId received

/-- The response is made from what a request comes to, and nothing is done to make it. -/
theorem Api.run_respond_of_outcome (api : Api) (requestId : String) (raw : RawRequest) (backend : Backend σ) (s : σ) :
    let run := (api.respond requestId raw).run backend s
    let came := (api.outcome raw).run.run backend s
    run.value = (Response.ofResult requestId came.value).finish requestId ∧ run.exchanges = came.exchanges ∧
      run.state = came.state := by
  intro run came
  have responded := Plan.run_map backend (fun result => (Response.ofResult requestId result).finish requestId)
    (api.outcome raw).run s
  rw [← api.respond_eq requestId raw] at responded
  exact ⟨congrArg Run.value responded, congrArg Run.exchanges responded, congrArg Run.state responded⟩

/-! ## What requests come to -/

/-- What a request by a method comes to, if it does not fail. -/
inductive Outcome.Answers (method : Method) : Outcome → Prop
  | found (report : Report) (get : method = .get) : Answers method (.document .ok report.document none)
  | created (report : Report) (path : String) (post : method = .post) :
    Answers method (.document .created report.document (some path))
  | done (write : method = .put ∨ method = .delete) : Answers method (.noContent none)
  | permitted (allow : String) (options : method = .options) : Answers method (.noContent (some allow))

namespace Api

variable {api : Api} {o : Offering} {shape : Shape} {request : Request}

/-- An operation comes to what the method asks for that picked it. -/
theorem gives_answer {method : Method} {count : Nat} {operation : Operation}
    (picks : Operation.Picks shape method count operation) :
    (api.performOn o shape request operation).run.Gives fun result =>
      ∀ outcome, result = .ok outcome → outcome.Answers method := by
  have faults (method : Method) (fault : Fault) :
      ∀ outcome, (.error fault : Except Fault Outcome) = .ok outcome → outcome.Answers method := nofun
  cases picks with
  | options => exact fun _ same => Except.ok.inj same ▸ .permitted _ rfl
  | list =>
    refine Engine.gives_bind (faults _) fun entities => ?_
    exact Engine.gives_bind (faults _) fun report _ same => Except.ok.inj same ▸ .found report rfl
  | create =>
    refine Engine.gives_bind (faults _) fun entity => ?_
    refine Engine.gives_bind (faults _) fun created => ?_
    exact Engine.gives_bind (faults _) fun report _ same => Except.ok.inj same ▸ .created report _ rfl
  | fetch =>
    refine Engine.gives_bind (faults _) fun id => ?_
    refine Engine.gives_bind (faults _) fun entity => ?_
    exact Engine.gives_bind (faults _) fun report _ same => Except.ok.inj same ▸ .found report rfl
  | update =>
    refine Engine.gives_bind (faults _) fun id => ?_
    refine Engine.gives_bind (faults _) fun sent => ?_
    refine Engine.gives_bind (faults _) fun entity => ?_
    exact Engine.gives_bind (faults _) fun _ _ same => Except.ok.inj same ▸ .done (.inl rfl)
  | delete =>
    refine Engine.gives_bind (faults _) fun id => ?_
    exact Engine.gives_bind (faults _) fun _ _ same => Except.ok.inj same ▸ .done (.inr rfl)
  | fetchMany =>
    refine Engine.gives_bind (faults _) fun found => ?_
    refine Engine.gives_bind (faults _) fun entities => ?_
    exact Engine.gives_bind (faults _) fun report _ same => Except.ok.inj same ▸ .found report rfl
  | follow =>
    refine Engine.gives_bind (faults _) fun id => ?_
    refine Engine.gives_bind (faults _) fun field => ?_
    refine Engine.gives_bind (faults _) fun owner => ?_
    refine Engine.gives_bind (faults _) fun related => ?_
    exact Engine.gives_bind (faults _) fun report _ same => Except.ok.inj same ▸ .found report rfl

end Api

/-- A request comes to what its method asks for, unless it fails. -/
theorem Registry.answers_of_outcome (registry : Registry σ) (mount : Mount) (raw : RawRequest) (backend : Backend σ) (s : σ)
    {outcome : Outcome} (came : (((registry.api mount).outcome raw).run.run backend s).value = .ok outcome) :
    outcome.Answers raw.method := by
  have gives : ((registry.api mount).outcome raw).run.Gives fun result =>
      ∀ outcome, result = .ok outcome → outcome.Answers raw.method := by
    unfold Api.outcome
    cases received : (registry.api mount).receive raw with
    | error reason => exact nofun
    | ok routed =>
      obtain ⟨shape, request⟩ := routed
      have method : request.method = raw.method := (Api.routes_of_receive received).method
      change ((registry.api mount).perform shape request).run.Gives _
      rcases registry.perform_cases mount shape request with ⟨reason, refused⟩ | ⟨r, operation, -, picked, performed⟩
      · rw [refused]
        exact nofun
      · rw [performed, ← method]
        exact Api.gives_answer (Operation.of_eq_ok_iff.1 picked)
  exact gives.run backend s outcome came

/-! ## Forms -/

/-- The forms of responses. -/
inductive Response.Form where
  | document
  | nothing
  | errors
  | failure
  deriving DecidableEq

namespace Response

/-- The form of a response can be seen from its status and its body. -/
inductive Has (r : Response) : Form → Prop
  | document {content : Document} (status : r.status = .ok ∨ r.status = .created)
    (body : r.body.content = content.json.bytes) : Has r .document
  | nothing (status : r.status = .noContent) (body : r.body.content = []) : Has r .nothing
  | errors {errors : List Json} (some : errors ≠ []) (body : r.body.content = (Json.obj [("errors", .arr errors)]).bytes) :
    Has r .errors
  | failure (status : r.status = .internalServerError) (body : r.body.content = []) : Has r .failure

/-- A response sends a report: a JSON object that holds what was asked for, and beside it, if there are any, the records that
the links of that lead to. -/
structure Sends (r : Response) (report : Report) : Prop where
  body : r.body.content = report.document.json.bytes
  members : ∃ members, report.document.json = .obj members ∧ ("data", report.primary.json) ∈ members ∧
    ("linked" ∈ members.map Prod.fst ↔ report.linked ≠ [])

/-- What a response tells of that to which a request by a method came, in each of the forms. -/
inductive Tells (method : Method) (result : Except Fault Outcome) (r : Response) : Form → Prop
  /-- What was to be read is sent. -/
  | found {report : Report} (get : method = .get) (came : result = .ok (.document .ok report.document none))
    (status : r.status = .ok) (sends : r.Sends report) (location : r.location = []) : Tells method result r .document
  /-- What was created is sent, with its path. -/
  | created {report : Report} {path : String} (post : method = .post)
    (came : result = .ok (.document .created report.document (some path))) (status : r.status = .created)
    (sends : r.Sends report) (location : r.location = [Utf8.encode path]) : Tells method result r .document
  /-- There is nothing to tell but which methods apply, if that was asked for. -/
  | done {allow : Option String} (came : result = .ok (.noContent allow)) (asked : allow.isSome ↔ method = .options)
    (status : r.status = .noContent) (body : r.body.content = [])
    (permits : r.headers.values "allow" = (allow.map Utf8.encode).toList) : Tells method result r .nothing
  /-- The request failed, and the client is told how. -/
  | refused {fault : Fault} (came : result = .error fault) (told : fault.kind ≠ .internal) (status : r.status = fault.status)
    (body : r.body.content = fault.json.bytes) : Tells method result r .errors
  /-- The server failed, be it before there was an outcome or because the path of what was created cannot be sent. -/
  | failed (came : (∃ fault, result = .error fault ∧ fault.kind = .internal) ∨
      ∃ document path, result = .ok (.document .created document (some path)) ∧ Headers.value? path = none)
    (status : r.status = .internalServerError) (body : r.body.content = []) : Tells method result r .failure

end Response

/-! ## Telling the forms apart -/

/-- A document is never taken for errors: its first member is the data. -/
theorem Document.bytes_ne_errors (d : Document) (errors : Json) : d.json.bytes ≠ (Json.obj [("errors", errors)]).bytes := by
  intro same
  obtain ⟨members, object, texts⟩ := Json.obj_of_print (Json.print_of_bytes same)
  cases object
  have names := congrArg (·.head?.map Prod.fst) texts
  have first : "data" = "errors" := Option.some.inj names
  exact absurd first (by decide)

/-- A fault always has an error to tell. -/
theorem Fault.errors_ne_nil (fault : Fault) : fault.errors ≠ [] := by
  unfold Fault.errors
  split
  · exact List.cons_ne_nil _ _
  · exact List.cons_ne_nil _ _

namespace Response

variable {r : Response} {form form' : Form}

/-- A response has one form. -/
theorem Has.unique (h : r.Has form) (h' : r.Has form') : form = form' := by
  cases h with
  | @document content status body =>
    cases h' with
    | document => rfl
    | nothing _ body' => exact absurd (body.symm.trans body') content.json.bytes_ne_nil
    | errors _ body' => exact absurd (body.symm.trans body') (content.bytes_ne_errors _)
    | failure _ body' => exact absurd (body.symm.trans body') content.json.bytes_ne_nil
  | nothing status body =>
    cases h' with
    | @document content _ body' => exact absurd (body'.symm.trans body) content.json.bytes_ne_nil
    | nothing => rfl
    | errors _ body' => exact absurd (body'.symm.trans body) (Json.bytes_ne_nil _)
    | failure status' _ => exact absurd (status.symm.trans status') (by decide)
  | errors some body =>
    cases h' with
    | @document content _ body' => exact absurd (body'.symm.trans body) (content.bytes_ne_errors _)
    | nothing _ body' => exact absurd (body.symm.trans body') (Json.bytes_ne_nil _)
    | errors => rfl
    | failure _ body' => exact absurd (body.symm.trans body') (Json.bytes_ne_nil _)
  | failure status body =>
    cases h' with
    | @document content _ body' => exact absurd (body'.symm.trans body) content.json.bytes_ne_nil
    | nothing status' _ => exact absurd (status'.symm.trans status) (by decide)
    | errors _ body' => exact absurd (body'.symm.trans body) (Json.bytes_ne_nil _)
    | failure => rfl

/-- What is told is told in the form that the response has. -/
theorem Tells.has {method : Method} {result : Except Fault Outcome} (h : r.Tells method result form) : r.Has form := by
  cases h with
  | found get came status sends location => exact .document (.inl status) sends.body
  | created post came status sends location => exact .document (.inr status) sends.body
  | done came asked status body permits => exact .nothing status body
  | refused came told status body => exact .errors (Fault.errors_ne_nil _) body
  | failed came status body => exact .failure status body

/-! ## The form of a response -/

/-- A response with the document of a report sends the report. -/
theorem sends_ofDocument (status : Status) (report : Report) (requestId : String) :
    (ofDocument status report.document.json.bytes requestId).Sends report where
  body := rfl
  members := by
    refine ⟨_, rfl, List.mem_cons_self, ?_⟩
    unfold Report.document
    cases report.linked with
    | nil => simp
    | cons first more => simp

/-- Whether a report is sent can be seen from the body. -/
theorem Sends.of_body {other : Response} {report : Report} (h : r.Sends report) (same : other.body = r.body) :
    other.Sends report where
  body := by
    rw [same]
    exact h.body
  members := h.members

/-- Which methods apply is told as it is. -/
theorem allow_permitted (requestId allow : String) :
    ((ofResult requestId (.ok (.noContent (some allow)))).finish requestId).headers.values "allow" = [Utf8.encode allow] := by
  rw [values_finish _ _ (by decide) (by decide) (by decide)]
  exact (values_setHeader _ _ _ _).trans (if_pos rfl)

/-- A fault that is not internal is told in a document, under its status. -/
theorem ofFault_of_explained {fault : Fault} (told : fault.kind ≠ .internal) (requestId : String) :
    fault.response requestId = ofDocument fault.status fault.json.bytes requestId := by
  have explained : fault.isExplained = true := by simpa [Fault.isExplained] using told
  unfold Fault.response Fault.document?
  rw [if_pos explained]

/-- Of an internal fault nothing is told. -/
theorem ofFault_of_internal {fault : Fault} (silent : fault.kind = .internal) (requestId : String) :
    fault.response requestId = bare .internalServerError requestId := by
  have unexplained : ¬fault.isExplained = true := by simp [Fault.isExplained, silent]
  unfold Fault.response Fault.document?
  rw [if_neg unexplained]

/-- Whatever a request that succeeded came to, the response tells it, or fails because it cannot. -/
theorem tells_of_answers {method : Method} {outcome : Outcome} (h : outcome.Answers method) (requestId : String) :
    ∃ form, ((ofResult requestId (.ok outcome)).finish requestId).Tells method (.ok outcome) form := by
  cases h with
  | found report get =>
    refine ⟨.document, .found get rfl (status_finish _ _) ?_ ?_⟩
    · exact (sends_ofDocument .ok report requestId).of_body (body_finish _ _)
    · rw [location_finish]
      exact location_ofDocument _ _ _
  | created report path post =>
    rw [ofResult_created]
    cases value : Headers.value? path with
    | none =>
      exact ⟨.failure, .failed (.inr ⟨_, path, rfl, value⟩) (status_finish _ _) (congrArg Body.content (body_finish _ _))⟩
    | some bytes =>
      refine ⟨.document, .created post rfl (status_finish _ _) ?_ ?_⟩
      · exact (sends_ofDocument .created report requestId).of_body (body_finish _ _)
      · rw [location_finish, Headers.eq_encode_of_value? value]
        exact (values_setHeader _ _ _ _).trans (if_pos rfl)
  | done write =>
    refine ⟨.nothing, .done rfl ?_ (status_finish _ _) (congrArg Body.content (body_finish _ _)) ?_⟩
    · rcases write with rfl | rfl <;> decide
    · rw [values_finish _ _ (by decide) (by decide) (by decide)]
      exact Headers.values_setText_of_ne _ (by decide) _
  | permitted allow options =>
    exact ⟨.nothing, .done rfl (by simp [options]) (status_finish _ _) (congrArg Body.content (body_finish _ _))
      (allow_permitted requestId allow)⟩

/-- A fault is told, or the response tells of nothing but a failure. -/
theorem tells_fault (method : Method) (fault : Fault) (requestId : String) :
    ∃ form, ((ofResult requestId (.error fault)).finish requestId).Tells method (.error fault) form := by
  change ∃ form, ((fault.response requestId).finish requestId).Tells method (.error fault) form
  by_cases silent : fault.kind = .internal
  · rw [ofFault_of_internal silent]
    exact ⟨.failure, .failed (.inl ⟨fault, rfl, silent⟩) (status_finish _ _) (congrArg Body.content (body_finish _ _))⟩
  · rw [ofFault_of_explained silent]
    exact ⟨.errors, .refused rfl silent (status_finish _ _) (congrArg Body.content (body_finish _ _))⟩

/-- Whatever a request came to, the response bears the id of the request and says of what type its content is. -/
theorem framed_ofResult {requestId : String} (sendable : Headers.Sendable requestId) (result : Except Fault Outcome) :
    (ofResult requestId result).Framed requestId := by
  cases result with
  | error fault =>
    change (fault.response requestId).Framed requestId
    by_cases silent : fault.kind = .internal
    · rw [ofFault_of_internal silent]
      exact framed_bare sendable _
    · rw [ofFault_of_explained silent]
      exact framed_ofDocument sendable _ (Json.bytes_ne_nil _)
  | ok outcome =>
    cases outcome with
    | noContent allow =>
      have bare := framed_bare sendable .noContent
      cases allow with
      | none => exact bare
      | some methods => exact bare.setHeader (by decide) (by decide) _
    | document status content location =>
      have sent := framed_ofDocument sendable status content.json.bytes_ne_nil
      cases location with
      | none => exact sent
      | some path =>
        rw [ofResult_created]
        cases Headers.value? path with
        | none => exact framed_bare sendable _
        | some value => exact sent.setHeader (by decide) (by decide) _

end Response

/-- Every request is answered in one form. It is a document, with what was asked for and, if there is such, what the links of
that lead to, and it says where an entity is if and only if the request created one; or nothing at all, and it says which
methods apply if and only if the request asked for them; or errors, under the status of a fault that is not internal; or the
failure of the server, of which nothing is told. In every form the response bears the id of its request and the other fields
that all responses carry, it says of what type its content is if and only if it has any, and it announces as many bytes as
its frames hold. -/
theorem answered_in_one_form (registry : Registry σ) (mount : Mount) {requestId : String}
    (sendable : Headers.Sendable requestId) (raw : RawRequest) (s : σ) :
    let response := (((registry.api mount).respond requestId raw).run registry.backend s).value
    let result := (((registry.api mount).outcome raw).run.run registry.backend s).value
    ∃ form, response.Tells raw.method result form ∧ (∀ other, response.Has other ↔ other = form) ∧
      response.Carries requestId := by
  intro response result
  obtain ⟨told, -, -⟩ := (registry.api mount).run_respond_of_outcome requestId raw registry.backend s
  have carries : response.Carries requestId := by
    rw [show response = _ from told]
    exact (Response.framed_ofResult sendable result).carries_finish
  have tells : ∃ form, response.Tells raw.method result form := by
    rw [show response = _ from told]
    change ∃ form, ((Response.ofResult requestId result).finish requestId).Tells raw.method result form
    cases came : result with
    | error fault => exact Response.tells_fault raw.method fault requestId
    | ok outcome =>
      exact Response.tells_of_answers (registry.answers_of_outcome mount raw registry.backend s came) requestId
  obtain ⟨form, tells⟩ := tells
  refine ⟨form, tells, fun other => ⟨fun has => has.unique tells.has, ?_⟩, carries⟩
  rintro rfl
  exact tells.has

/-- A post that is asked for is sent as a document, with the author and the comments that its links lead to, and with all that
responses carry. -/
theorem blog_answered_in_one_form :
    let raw : RawRequest := .plain .get "/posts/1" ""
    let response := (((Blog.registry.api .root).respond "7" raw).run Blog.registry.backend ()).value
    Headers.Sendable "7" ∧ (∀ form, response.Has form ↔ form = .document) ∧ response.Carries "7" := by
  intro raw response
  have sendable : Headers.Sendable "7" := by decide +kernel
  obtain ⟨form, tells, has, carries⟩ := answered_in_one_form Blog.registry .root sendable raw ()
  have status : response.status = .ok := by decide +kernel
  have succeeded : (((Blog.registry.api .root).outcome raw).run.run Blog.registry.backend ()).value.isOk = true := by
    decide +kernel
  have document : form = .document := by
    change response.Tells raw.method _ form at tells
    cases tells with
    | found => rfl
    | created => rfl
    | done _ _ status' => exact absurd (status.symm.trans status') (by decide)
    | refused came =>
      rw [came] at succeeded
      cases succeeded
    | failed _ status' => exact absurd (status.symm.trans status') (by decide)
  subst document
  exact ⟨sendable, has, carries⟩

end ResourceApi

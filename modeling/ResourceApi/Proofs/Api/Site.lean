import ResourceApi.Proofs.Api.Forms

/-!
# The server around the API

A site tells its health itself and leaves all other requests to its API (`Site.respond_of_health`, `Site.respond_of_other`).
The fields that all responses have in common are put on where the API finishes a response, and the report of the health does
not come by there: of a site the responses of the API bear these fields, and the report of the health bears none of them
(`marked_iff_not_health`).
-/

namespace ResourceApi

variable {σ : Type}

/-- A response bears the id of its request, the name of the server, and leave for pages of any origin. -/
structure Response.Marked (r : Response) (requestId : String) : Prop where
  identified : r.headers.values Response.requestIdField = [Utf8.encode requestId]
  server : r.headers.values "server" = [Utf8.encode "Soyfr"]
  origin : r.headers.values "access-control-allow-origin" = [Utf8.encode "*"]

/-- What all finished responses carry includes these fields. -/
theorem Response.Carries.marked {r : Response} {requestId : String} (h : r.Carries requestId) : r.Marked requestId :=
  ⟨h.identified, h.server, h.origin⟩

namespace Site

/-- The health is asked for by GET, on one of two paths. -/
theorem asksForHealth_iff (raw : RawRequest) :
    asksForHealth raw = true ↔ raw.method = .get ∧ (raw.target.path = "/_health" ∨ raw.target.path = "/health") := by
  simp [asksForHealth, healthPaths]

variable (site : Site) (requestId : String) {raw : RawRequest}

/-- A request for the health is answered by the site itself. -/
theorem respond_of_health (h : asksForHealth raw = true) : site.respond requestId raw = pure site.health :=
  if_pos h

/-- Any other request is answered by the API. -/
theorem respond_of_other (h : asksForHealth raw = false) : site.respond requestId raw = site.api.respond requestId raw :=
  if_neg (Bool.eq_false_iff.1 h)

/-- The report of the health says of what type its content is, and has no other field. -/
theorem values_health (name : String) :
    site.health.headers.values name = if name = "content-type" then [Utf8.encode "application/json"] else [] :=
  Headers.values_set _ _ _ _

/-- The report of the health does not bear the name of the server, and so not all of the fields. -/
theorem not_marked_health : ¬site.health.Marked requestId := by
  intro marked
  have none := site.values_health "server"
  rw [if_neg (by decide), marked.server] at none
  cases none

end Site

/-- Whatever the API answers bears the common fields: documents, empty answers, errors and failures alike. -/
theorem Registry.marked_respond (registry : Registry σ) (mount : Mount) {requestId : String}
    (sendable : Headers.Sendable requestId) (raw : RawRequest) (s : σ) :
    (((registry.api mount).respond requestId raw).run registry.backend s).value.Marked requestId := by
  obtain ⟨told, -, -⟩ := (registry.api mount).run_respond_of_outcome requestId raw registry.backend s
  rw [told]
  exact (Response.framed_ofResult sendable _).carries_finish.marked

/-- A response of the server bears the id of its request, the name of the server and leave for pages of any origin if and only
if the request does not ask for the health of the server. That is asked for by GET on one of two paths, whatever is mounted
there; the report is then made without a call, and it bears none of the three fields. -/
theorem marked_iff_not_health (registry : Registry σ) (mount : Mount) (version : String) {requestId : String}
    (sendable : Headers.Sendable requestId) (raw : RawRequest) (s : σ) :
    let site : Site := ⟨registry.api mount, version⟩
    let run := (site.respond requestId raw).run registry.backend s
    let healthy := raw.method = .get ∧ (raw.target.path = "/_health" ∨ raw.target.path = "/health")
    (run.value.Marked requestId ↔ ¬healthy) ∧
      (healthy → run = ⟨site.health, [], s⟩ ∧
        ∀ name ∈ [Response.requestIdField, "server", "access-control-allow-origin"], run.value.headers.values name = []) ∧
      (¬healthy → run = ((registry.api mount).respond requestId raw).run registry.backend s) := by
  intro site run healthy
  have asks : healthy ↔ Site.asksForHealth raw = true := (Site.asksForHealth_iff raw).symm
  have told (h : healthy) : run = ⟨site.health, [], s⟩ := by
    change (site.respond requestId raw).run registry.backend s = _
    rw [site.respond_of_health requestId (asks.1 h)]
    rfl
  have left (h : ¬healthy) : run = ((registry.api mount).respond requestId raw).run registry.backend s := by
    change (site.respond requestId raw).run registry.backend s = _
    rw [site.respond_of_other requestId (Bool.eq_false_iff.2 fun asked => h (asks.2 asked))]
  refine ⟨⟨fun marked h => ?_, fun h => ?_⟩, fun h => ⟨told h, ?_⟩, left⟩
  · rw [told h] at marked
    exact site.not_marked_health requestId marked
  · rw [left h]
    exact registry.marked_respond mount sendable raw s
  · rw [told h]
    intro name among
    rw [site.values_health]
    exact if_neg fun same => absurd (same ▸ among) (by decide)

/-- Of a server for the blog, the answer to a request for a post and the one to a request for what is not there bear the
fields. -/
theorem blog_answers_marked :
    let site : Site := ⟨Blog.registry.api .root, "1"⟩
    Headers.Sendable "7" ∧ ∀ path ∈ ["/posts/1", "/posts/9", "/health/1"],
      ((site.respond "7" (.plain .get path "")).run Blog.registry.backend ()).value.Marked "7" := by
  intro site
  have sendable : Headers.Sendable "7" := by decide +kernel
  refine ⟨sendable, fun path among => ?_⟩
  have other : ¬((RawRequest.plain .get path "").method = .get ∧ ((RawRequest.plain .get path "").target.path = "/_health" ∨
      (RawRequest.plain .get path "").target.path = "/health")) := by
    revert path
    decide +kernel
  exact (marked_iff_not_health Blog.registry .root "1" sendable (.plain .get path "") ()).1.2 other

/-- The report of the health, which the server sends as a success, does not bear the fields. -/
theorem health_unmarked :
    let site : Site := ⟨Blog.registry.api .root, "1"⟩
    let response := ((site.respond "7" (.plain .get "/health" "")).run Blog.registry.backend ()).value
    response.status = .ok ∧ ¬response.Marked "7" := by
  intro site response
  have told : response = site.health := by
    change ((site.respond "7" _).run Blog.registry.backend ()).value = _
    rw [site.respond_of_health "7" (by decide +kernel)]
    rfl
  rw [told]
  exact ⟨rfl, site.not_marked_health "7"⟩

end ResourceApi

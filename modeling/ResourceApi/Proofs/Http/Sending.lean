import ResourceApi.Http.Response
import ResourceApi.Proofs.Http.Headers

/-!
# What goes over the wire

The body of a response is taken frame by frame (`Body.Delivers`), and the frames hold as many bytes as were announced before
the first (`Body.announced`). The header fields that all responses have in common are put together in two places: where a
response is made and where it is finished. `Response.Framed` says what the first has to see to, and `Response.carries_finish`
that nothing is missing after the second.
-/

namespace ResourceApi

/-! ## Frames -/

namespace Body

/-- A body is delivered in these frames. -/
inductive Delivers : Body → List Bytes → Prop
  | finished {b rest : Body} (none : b.next = (none, rest)) : Delivers b []
  | frame {b rest : Body} {frame : Bytes} {frames : List Bytes} (taken : b.next = (some frame, rest))
    (more : Delivers rest frames) : Delivers b (frame :: frames)

theorem next_empty : empty.next = (none, empty) := rfl

/-- A body with content is taken in one frame, and nothing is left. -/
theorem next_of_ne_nil {b : Body} (h : b.content ≠ []) : b.next = (some b.content, empty) := by
  unfold next
  rw [List.isEmpty_eq_false_iff.2 h]
  rfl

/-- Of a body without content there is no frame to be taken. -/
theorem next_of_eq_nil {b : Body} (h : b.content = []) : b.next = (none, b) := by
  unfold next
  rw [h]
  rfl

/-- The frames of a body hold its bytes, all of them and in their order. -/
theorem Delivers.flatten {b : Body} {frames : List Bytes} (h : b.Delivers frames) : frames.flatten = b.content := by
  induction h with
  | @finished b rest none =>
    by_cases content : b.content = []
    · rw [content]
      rfl
    · rw [next_of_ne_nil content] at none
      cases none
  | @frame b rest frame frames taken more ih =>
    by_cases content : b.content = []
    · rw [next_of_eq_nil content] at taken
      cases taken
    · rw [next_of_ne_nil content] at taken
      cases taken
      rw [List.flatten_cons, ih]
      exact List.append_nil _

/-- Every body is delivered. -/
theorem exists_delivers (b : Body) : ∃ frames, b.Delivers frames := by
  by_cases content : b.content = []
  · exact ⟨[], .finished (next_of_eq_nil content)⟩
  · exact ⟨[b.content], .frame (next_of_ne_nil content) (.finished next_empty)⟩

/-- The number of bytes that is announced is the number of those that the frames hold. -/
theorem announced (b : Body) :
    (∃ frames, b.Delivers frames) ∧ ∀ frames, b.Delivers frames → frames.flatten.length = b.size := by
  refine ⟨b.exists_delivers, fun frames delivered => ?_⟩
  rw [delivered.flatten]
  rfl

end Body

/-! ## Header fields -/

namespace Response

/-- A response bears the id of its request, and says of what type its content is if it has any. -/
structure Framed (r : Response) (requestId : String) : Prop where
  typed : r.headers.values "content-type" = if r.body.content = [] then [] else [documentType]
  identified : r.headers.values requestIdField = [Utf8.encode requestId]

/-- What all responses carry: those two, the name of the server, leave for pages of any origin, and as many bytes as they
announce. -/
structure Carries (r : Response) (requestId : String) : Prop extends r.Framed requestId where
  server : r.headers.values "server" = [Utf8.encode "Soyfr"]
  origin : r.headers.values "access-control-allow-origin" = [Utf8.encode "*"]
  announced : (∃ frames, r.body.Delivers frames) ∧
    ∀ frames, r.body.Delivers frames → frames.flatten.length = r.body.size

variable {r : Response} {requestId : String}

/-- A response with a field more has the others as they were. -/
theorem values_setHeader (r : Response) (name other : String) (value : Bytes) :
    (r.setHeader name value).headers.values other = if other = name then [value] else r.headers.values other :=
  Headers.values_set _ _ _ _

/-- A field of another name says no less. -/
theorem Framed.setHeader (h : r.Framed requestId) {name : String} (noType : "content-type" ≠ name)
    (noId : requestIdField ≠ name) (value : Bytes) : (r.setHeader name value).Framed requestId where
  typed := by
    rw [values_setHeader, if_neg noType]
    exact h.typed
  identified := by
    rw [values_setHeader, if_neg noId]
    exact h.identified

/-- An id that is there already stays the one that is there. -/
theorem Framed.identify (h : r.Framed requestId) (other : String) : (r.identify other).Framed requestId := by
  have has : r.headers.has requestIdField = true := by
    unfold Headers.has
    rw [h.identified]
    rfl
  unfold Response.identify
  rw [if_pos has]
  exact h

/-- A field that is not one of those that all responses carry is left as it is. -/
theorem values_finish (r : Response) (requestId : String) {name : String} (noId : name ≠ requestIdField)
    (noServer : name ≠ "server") (noOrigin : name ≠ "access-control-allow-origin") :
    (r.finish requestId).headers.values name = r.headers.values name := by
  have identified : (r.identify requestId).headers.values name = r.headers.values name := by
    unfold Response.identify
    split
    · rfl
    · exact Headers.values_setText_of_ne _ noId _
  unfold finish
  rw [values_setHeader, if_neg noOrigin, values_setHeader, if_neg noServer, identified]

/-- Finishing a response does not change its body. -/
theorem body_finish (r : Response) (requestId : String) : (r.finish requestId).body = r.body := by
  unfold finish Response.identify
  split <;> rfl

/-- A response that is finished carries what all responses carry. -/
theorem Framed.carries_finish (h : r.Framed requestId) : (r.finish requestId).Carries requestId where
  toFramed := ((h.identify requestId).setHeader (by decide) (by decide) _).setHeader (by decide) (by decide) _
  server := by
    unfold finish
    rw [values_setHeader, if_neg (by decide), values_setHeader, if_pos rfl]
  origin := by
    unfold finish
    rw [values_setHeader, if_pos rfl]
  announced := Body.announced _

section

variable (sendable : Headers.Sendable requestId)

include sendable

/-- The id of a request is sent as it is. -/
theorem values_setText_self (headers : Headers) :
    (headers.setText requestIdField requestId).values requestIdField = [Utf8.encode requestId] := by
  unfold Headers.setText
  rw [Headers.value?_of_sendable sendable]
  exact (Headers.values_set _ _ _ _).trans (if_pos rfl)

/-- A response without a document bears the id, and is of no type. -/
theorem framed_bare (status : Status) : (bare status requestId).Framed requestId where
  typed := Headers.values_setText_of_ne _ (by decide) _
  identified := values_setText_self sendable _

/-- A response with a document bears the id and the type of the document. -/
theorem framed_ofDocument (status : Status) {document : Bytes} (some : document ≠ []) :
    (ofDocument status document requestId).Framed requestId where
  typed := by
    unfold ofDocument
    rw [Headers.values_setText_of_ne _ (by decide), Headers.values_set, if_pos rfl, if_neg some]
  identified := values_setText_self sendable _

end

end Response

end ResourceApi

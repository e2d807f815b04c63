import ResourceApi.Proofs.Api.Forms
import ResourceApi.Proofs.Document.Texts
import ResourceApi.Proofs.Users.Refinement

/-!
# Users who were removed

An id that was given and under which nobody stands any more is gone (`Directory.Gone`). No step of a directory brings it back:
a new user gets an id that was not given before, and a change needs a user to change (`Directory.Step.gone`). So once a removal
has been confirmed, nobody is seen under the id again, whatever is sent (`removed_users_stay_gone`).
-/

namespace ResourceApi

/-! ## Directories -/

/-- The user that a demand is about, if it is about one. -/
def Demand.subject? : Demand → Option String
  | change id _ | remove id | find id => some id
  | add _ | select _ | list | methods _ => none

/-- The users that an answer shows. -/
def Answer.users : Answer → List Entity
  | created user | one user => [user]
  | many users => users
  | done | methods _ | unknown | noneOf _ => []

namespace Directory

/-- An id was given to a user, and nobody stands under it. -/
structure Gone (d : Directory) (id : String) : Prop where
  given : id ∈ d.given
  nobody : d.user? id = none

variable {d d' : Directory} {id : String} {demand : Demand} {answer : Answer}

/-- Whoever stands in a directory stands under another id than one that is gone. -/
theorem Gone.ne_of_stored (gone : d.Gone id) {other : String} {user : Entity} (stored : d.user? other = some user) :
    id ≠ other := by
  rintro rfl
  rw [gone.nobody] at stored
  cases stored

/-- No step brings an id back. -/
theorem Step.gone (h : d.Step demand answer d') (gone : d.Gone id) : d'.Gone id := by
  cases h with
  | @added user new fresh free =>
    have other : id ≠ new := fun same => fresh (same ▸ gone.given)
    exact ⟨List.mem_cons_of_mem _ gone.given, (if_neg other).trans gone.nobody⟩
  | changed stored written => exact ⟨gone.given, (if_neg (gone.ne_of_stored stored)).trans gone.nobody⟩
  | removed stored => exact ⟨gone.given, (if_neg (gone.ne_of_stored stored)).trans gone.nobody⟩
  | notChanged | notRemoved | found | notFound | selected | noneSelected | listed | told => exact gone

/-- An id that is gone is not shown. -/
theorem Step.hides (h : d.Step demand answer d') (sound : d.Sound) (gone : d.Gone id) :
    ∀ user ∈ answer.users, user.id ≠ id := by
  have stored_ne {other : String} {user : Entity} (stored : d.user? other = some user) : user.id ≠ id := by
    rw [sound.id_eq stored]
    exact (gone.ne_of_stored stored).symm
  intro user shown
  cases h with
  | @added sent new fresh free =>
    obtain rfl := List.mem_singleton.1 shown
    intro same
    change new = id at same
    exact fresh (same ▸ gone.given)
  | found stored =>
    obtain rfl := List.mem_singleton.1 shown
    exact stored_ne stored
  | selected some =>
    obtain ⟨other, -, stored⟩ := List.mem_filterMap.1 shown
    exact stored_ne stored
  | listed once all =>
    obtain ⟨other, stored⟩ := (all user).1 shown
    exact stored_ne stored
  | changed | notChanged | removed | notRemoved | notFound | noneSelected | told => cases shown

/-- A demand about an id that is gone is not met. -/
theorem Step.unknown (h : d.Step demand answer d') (gone : d.Gone id) (about : demand.subject? = some id) :
    answer = .unknown := by
  cases h with
  | changed stored | removed stored | found stored =>
    obtain rfl := Option.some.inj about
    exact absurd rfl (gone.ne_of_stored stored)
  | notChanged | notRemoved | notFound => rfl
  | added | selected | noneSelected | listed | told => cases about

/-- After a removal that was done the id is gone. -/
theorem Step.gone_of_removed (h : d.Step (.remove id) .done d') (sound : d.Sound) : d'.Gone id := by
  cases h with
  | removed stored => exact ⟨sound.given stored, if_pos rfl⟩

end Directory

/-! ## Responses -/

/-- A response shows the record of an id in its document. -/
def Response.Shows (r : Response) (id : String) : Prop :=
  ∃ d : Document, r.body.content = d.json.bytes ∧ d.Shows id

/-- A response shows what the document shows that the request came to, if it came to one. -/
theorem Response.shows_ofResult {requestId id : String} {result : Except Fault Outcome}
    (h : ((ofResult requestId result).finish requestId).Shows id) :
    ∃ status document location, result = .ok (.document status document location) ∧ document.Shows id := by
  obtain ⟨d, body, shows⟩ := h
  rw [body_finish] at body
  cases result with
  | error fault =>
    change (fault.response requestId).body.content = _ at body
    by_cases silent : fault.kind = .internal
    · rw [ofFault_of_internal silent] at body
      exact absurd body.symm d.json.bytes_ne_nil
    · rw [ofFault_of_explained silent] at body
      exact absurd body.symm (d.bytes_ne_errors _)
  | ok outcome =>
    cases outcome with
    | noContent allow => cases allow <;> exact absurd body.symm d.json.bytes_ne_nil
    | document status content location =>
      refine ⟨status, content, location, rfl, ?_⟩
      cases location with
      | none => exact shows.of_bytes body.symm
      | some path =>
        rw [ofResult_created] at body
        cases sendable : Headers.value? path with
        | none =>
          rw [sendable] at body
          exact absurd body.symm d.json.bytes_ne_nil
        | some value =>
          rw [sendable] at body
          exact shows.of_bytes body.symm

namespace Users

/-- A user is shown under its id and under no other. -/
theorem id_of_identifies {user : Entity} {id : String} (h : (shown user).Identifies id) : user.id = id := by
  obtain ⟨members, object, own⟩ := h
  cases object
  simp only [List.cons_append, List.nil_append, List.mem_cons, Option.mem_toList,
    Option.map_eq_some_iff] at own
  rcases own with own | own | ⟨value, -, own⟩
  · exact (Json.str.inj (Prod.mk.inj own).2).symm
  · exact absurd (Prod.mk.inj own).1 (by decide)
  · exact absurd (Prod.mk.inj own).1 (by decide)

/-- The document of an answer shows the users of the answer and no others. -/
theorem mem_of_shows {mount : Mount} {answer : Answer} {status : Status} {document : Document} {location : Option String}
    (told : answer.result mount = .ok (.document status document location)) {id : String} (shows : document.Shows id) :
    ∃ user ∈ answer.users, user.id = id := by
  have single {user : Entity} (shows : Document.Shows ⟨shown user, []⟩ id) : user.id = id := by
    cases shows with
    | one own => exact id_of_identifies own
    | many data => cases data
    | linked among => cases among
  cases answer with
  | created user =>
    cases told
    exact ⟨user, List.mem_singleton_self _, single shows⟩
  | one user =>
    cases told
    exact ⟨user, List.mem_singleton_self _, single shows⟩
  | many users =>
    cases told
    cases shows with
    | one own =>
      obtain ⟨members, array, -⟩ := own
      cases array
    | many data among own =>
      cases data
      obtain ⟨user, stands, rfl⟩ := List.mem_map.1 among
      exact ⟨user, stands, id_of_identifies own⟩
    | linked among => cases among
  | done | methods | unknown | noneOf => cases told

/-! ## Requests -/

/-- A request is about the user of an id, and no other. -/
def Addresses (mount : Mount) (raw : RawRequest) (id : String) : Prop :=
  ∃ request, mount.Routes raw .element request ∧ request.resource = "users" ∧ request.ids = [id]

section

variable {mount : Mount} {raw : RawRequest} {id : String}

theorem Addresses.asks_find (h : Addresses mount raw id) (get : raw.method = .get) : Asks mount raw (.find id) := by
  obtain ⟨request, routes, addressed, one⟩ := h
  have method : request.method = .get := by cases routes; exact get
  exact ⟨.element, request, routes, addressed, .find method one⟩

theorem Addresses.asks_remove (h : Addresses mount raw id) (delete : raw.method = .delete) :
    Asks mount raw (.remove id) := by
  obtain ⟨request, routes, addressed, one⟩ := h
  have method : request.method = .delete := by cases routes; exact delete
  exact ⟨.element, request, routes, addressed, .remove method one⟩

/-- Whatever is demanded by a request to change the user of an id is about this user. -/
theorem Addresses.subject_of_put (h : Addresses mount raw id) (put : raw.method = .put) {demand : Demand}
    (asks : Asks mount raw demand) : demand.subject? = some id := by
  obtain ⟨request, routes, addressed, one⟩ := h
  obtain ⟨shape, request', routes', -, demands⟩ := asks
  obtain ⟨rfl, rfl⟩ := routes.unique routes'
  have method : request.method = .put := routes.method.trans put
  have other {m : Method} (asked : request.method = m) (different : Method.put ≠ m) : False :=
    different (method.symm.trans asked)
  cases demands with
  | change _ one' => exact congrArg some (List.cons.inj (one'.symm.trans one)).1
  | remove asked _ | find asked _ | select asked _ | methods asked => exact (other asked (by decide)).elim

end

/-- What a response to a request tells of an id under which nobody stands: no record is shown under it, whoever asks for it or
asks to remove it is told that it is unknown, and nobody is told that it was changed. -/
structure Hides (mount : Mount) (id : String) (request : String × RawRequest) (response : Response) : Prop where
  hidden : ¬response.Shows id
  unknown : Addresses mount request.2 id → request.2.method = .get ∨ request.2.method = .delete →
    response.status = .notFound
  unchanged : Addresses mount request.2 id → request.2.method = .put → response.status ≠ .noContent

section

variable {mint : Nat → String} (distinct : Function.Injective mint) {registry : Registry Users}
  (built : Users.registry mint = .ok registry) {mount : Mount} {users : Users} (sound : (users.directory mint).Sound)
  {id : String} (gone : (users.directory mint).Gone id) (requestId : String) {raw : RawRequest}

include distinct built sound gone

/-- What is demanded of the user of an id that is gone is answered by that there is no such user. -/
theorem notFound_of_gone {demand : Demand} (asks : Asks mount raw demand) (about : demand.subject? = some id) :
    (((registry.api mount).respond requestId raw).run registry.backend users).value.status = .notFound := by
  have step := users.step_of_demand distinct sound demand
  obtain ⟨value, -⟩ := respond_of_asks built users asks requestId
  rw [value, step.unknown gone about]
  exact Response.status_finish _ _

/-- A response does not show an id that is gone. -/
theorem not_shows_of_gone : ¬(((registry.api mount).respond requestId raw).run registry.backend users).value.Shows id := by
  intro shows
  by_cases asks : ∃ demand, Asks mount raw demand
  · obtain ⟨demand, asks⟩ := asks
    have step := users.step_of_demand distinct sound demand
    obtain ⟨value, -⟩ := respond_of_asks built users asks requestId
    rw [value] at shows
    obtain ⟨status, document, location, told, shows⟩ := Response.shows_ofResult shows
    obtain ⟨user, shown, same⟩ := mem_of_shows told shows
    exact step.hides sound gone user shown same
  · obtain ⟨⟨fault, -, value⟩, -⟩ := fault_of_no_demand built users (not_exists.1 asks) requestId
    rw [value] at shows
    change ((Response.ofResult requestId (.error fault)).finish requestId).Shows id at shows
    obtain ⟨status, document, location, told, -⟩ := Response.shows_ofResult shows
    cases told

/-- A request to change the user of an id that is gone is not met, whether its body is accepted or not. -/
theorem not_noContent_of_gone (addressed : Addresses mount raw id) (put : raw.method = .put) :
    (((registry.api mount).respond requestId raw).run registry.backend users).value.status ≠ .noContent := by
  by_cases asks : ∃ demand, Asks mount raw demand
  · obtain ⟨demand, asks⟩ := asks
    rw [notFound_of_gone distinct built sound gone requestId asks (addressed.subject_of_put put asks)]
    decide
  · have failed := (respond_of_no_demand built users (not_exists.1 asks) requestId).1
    intro done
    rw [done] at failed
    exact absurd failed (by decide)

/-- A response tells nothing of an id that is gone. -/
theorem hides_of_gone (request : String × RawRequest) :
    Hides mount id request (((registry.api mount).respond request.1 request.2).run registry.backend users).value where
  hidden := not_shows_of_gone distinct built sound gone request.1
  unknown addressed read := by
    rcases read with get | delete
    · exact notFound_of_gone distinct built sound gone request.1 (addressed.asks_find get) rfl
    · exact notFound_of_gone distinct built sound gone request.1 (addressed.asks_remove delete) rfl
  unchanged := not_noContent_of_gone distinct built sound gone request.1

omit gone in
/-- Every request takes a sound directory to a sound one, from which no id is back that was gone. -/
theorem kept_of_respond (request : String × RawRequest) :
    let run := ((registry.api mount).respond request.1 request.2).run registry.backend users
    (run.state.directory mint).Sound ∧
      ∀ id, (users.directory mint).Gone id → (run.state.directory mint).Gone id := by
  intro run
  by_cases asks : ∃ demand, Asks mount request.2 demand
  · obtain ⟨demand, asks⟩ := asks
    have step := users.step_of_demand distinct sound demand
    rw [show run.state = _ from (respond_of_asks built users asks request.1).2]
    exact ⟨step.sound sound, fun id gone => step.gone gone⟩
  · rw [show run.state = _ from (respond_of_no_demand built users (not_exists.1 asks) request.1).2]
    exact ⟨sound, fun id gone => gone⟩

omit gone in
/-- A removal that was confirmed leaves the id gone. -/
theorem gone_of_confirmed {request : String × RawRequest} (addressed : Addresses mount request.2 id)
    (delete : request.2.method = .delete) :
    let run := ((registry.api mount).respond request.1 request.2).run registry.backend users
    run.value.status = .noContent → (run.state.directory mint).Gone id := by
  intro run confirmed
  have step := users.step_of_demand distinct sound (.remove id)
  obtain ⟨value, state⟩ : run.value = _ ∧ run.state = _ :=
    respond_of_asks built users (addressed.asks_remove delete) request.1
  rw [state]
  generalize told : users.answer mint (.remove id) = answer at step value
  cases answer with
  | done => exact step.gone_of_removed sound
  | unknown =>
    have missing : run.value.status = .notFound := by
      rw [value]
      exact Response.status_finish _ _
    exact absurd (missing.symm.trans confirmed) (by decide)
  | created | one | many | methods | noneOf => cases step

omit gone in
/-- From a directory in which an id is gone on, whatever is sent, the id stays gone and no response tells anything of it. -/
theorem hides_of_respondAll (gone : (users.directory mint).Gone id) (requests : List (String × RawRequest)) :
    let run := ((registry.api mount).respondAll requests).run registry.backend users
    (run.state.directory mint).Gone id ∧ ∀ p ∈ requests.zip run.value, Hides mount id p.1 p.2 := by
  intro run
  let kept (users : Users) : Prop := (users.directory mint).Sound ∧ (users.directory mint).Gone id
  have step (request : String × RawRequest) (users : Users) (held : kept users) :
      let run := ((registry.api mount).respond request.1 request.2).run registry.backend users
      kept run.state ∧ Hides mount id request run.value := by
    obtain ⟨sound, gone⟩ := held
    obtain ⟨sound', still⟩ := kept_of_respond distinct built sound request
    exact ⟨⟨sound', still id gone⟩, hides_of_gone distinct built sound gone request⟩
  obtain ⟨⟨-, last⟩, told⟩ :=
    @Api.conversation_of_steps Users Users (registry.api mount) registry.backend
      (fun request _ response _ => Hides mount id request response) kept (fun users => users) requests
      (fun request _ => step request) users ⟨sound, gone⟩
  exact ⟨last, told.forall_zip⟩

omit gone in
/-- The same holds from a removal on that was confirmed somewhere in a conversation. -/
theorem hides_after_removal {requests : List (String × RawRequest)} {removal : String × RawRequest} {confirmed : Response}
    {earlier later : List ((String × RawRequest) × Response)} (addressed : Addresses mount removal.2 id)
    (delete : removal.2.method = .delete) (done : confirmed.status = .noContent) :
    let run := ((registry.api mount).respondAll requests).run registry.backend users
    requests.zip run.value = earlier ++ (removal, confirmed) :: later →
      (run.state.directory mint).Gone id ∧ ∀ p ∈ later, Hides mount id p.1 p.2 := by
  -- The removal is the first of the requests, or it comes after the first has left a directory that is sound again.
  induction requests generalizing users earlier with
  | nil => intro run parts; simp at parts
  | cons request requests ih =>
    rw [Api.run_respondAll_cons]
    intro run parts
    change (request, _) :: requests.zip _ = _ at parts
    cases earlier with
    | nil =>
      obtain ⟨first, rfl⟩ := List.cons.inj parts
      obtain ⟨rfl, rfl⟩ := Prod.mk.inj first
      have gone := gone_of_confirmed distinct built sound addressed delete done
      exact hides_of_respondAll distinct built (kept_of_respond distinct built sound request).1 gone requests
    | cons earliest earlier =>
      obtain ⟨-, rest⟩ := List.cons.inj parts
      exact ih (kept_of_respond distinct built sound request).1 rest

end

end Users

/-- Once a removal has been confirmed, the user is gone for good. Whatever is sent after it, be it a new user with the id in
its body, a change to the user or a list of ids with this one among them, nothing is stored under the id, no response shows
a record that has it, whoever asks for the user or asks to remove it is told that it is unknown, and no change to it is ever
confirmed. This holds of every conversation with the application from a store without users, if no id is made twice. -/
theorem removed_users_stay_gone {mint : Nat → String} (distinct : Function.Injective mint) {registry : Registry Users}
    (built : Users.registry mint = .ok registry) (mount : Mount) (requests : List (String × RawRequest)) :
    let run := ((registry.api mount).respondAll requests).run registry.backend Users.empty
    ∀ earlier later removal confirmed id, requests.zip run.value = earlier ++ (removal, confirmed) :: later →
      Users.Addresses mount removal.2 id → removal.2.method = .delete → confirmed.status = .noContent →
      run.state.stored.get? id = none ∧
        ∀ request response, (request, response) ∈ later → ¬response.Shows id ∧
          (Users.Addresses mount request.2 id →
            (request.2.method = .get ∨ request.2.method = .delete → response.status = .notFound) ∧
              (request.2.method = .put → response.status ≠ .noContent)) := by
  intro run earlier later removal confirmed id parts addressed delete done
  have start : (Users.empty.directory mint).Sound := Directory.sound_empty
  obtain ⟨gone, hidden⟩ := Users.hides_after_removal distinct built start addressed delete done parts
  refine ⟨gone.nobody, fun request response among => ?_⟩
  have told := hidden (request, response) among
  exact ⟨told.hidden, fun addressed => ⟨told.unknown addressed, told.unchanged addressed⟩⟩

namespace Users

/-- A user is added and removed. Then one is added with the same id in its body, and the removed one is changed and looked
for, together with others and alone. -/
def farewell : List (String × RawRequest) :=
  [("1", .plain .post "/users" (bodyNaming "dora")), ("2", .plain .delete "/users/i" ""),
    ("3", .plain .post "/users" "\x7b\"users\": \x7b\"id\": \"i\", \"username\": \"dora\"\x7d\x7d"),
    ("4", .plain .put "/users/i" (bodyNaming "dieter")), ("5", .plain .get "/users/i,ii" ""),
    ("6", .plain .get "/users/i" "")]

end Users

/-- The user who was removed is not seen again, although another one was sent with the same id. -/
theorem tallied_users_stay_gone :
    let run := (((Users.served Users.tally).api .root).respondAll Users.farewell).run (Users.served Users.tally).backend
      Users.empty
    run.value.map Response.status = [.created, .noContent, .created, .notFound, .ok, .notFound] ∧
      run.state.stored.get? "i" = none ∧ ∀ p ∈ (Users.farewell.zip run.value).drop 2, ¬p.2.Shows "i" := by
  have stays := removed_users_stay_gone Users.tally_injective (Users.registry_eq Users.tally) .root Users.farewell
  have statuses :
      let run := (((Users.served Users.tally).api .root).respondAll Users.farewell).run (Users.served Users.tally).backend
        Users.empty
      run.value.map Response.status = [.created, .noContent, .created, .notFound, .ok, .notFound] := by decide +kernel
  generalize (((Users.served Users.tally).api .root).respondAll Users.farewell).run (Users.served Users.tally).backend
    Users.empty = run at stays statuses ⊢
  refine ⟨statuses, ?_⟩
  obtain ⟨first, more, values, -, statuses⟩ := List.map_eq_cons_iff.1 statuses
  obtain ⟨confirmed, rest, rfl, done, -⟩ := List.map_eq_cons_iff.1 statuses
  have names : Mount.root.Names (.plain .delete "/users/i" "") _ ["users", "i"] := ⟨rfl, by decide +kernel⟩
  have addressed : Users.Addresses .root (.plain .delete "/users/i" "") "i" :=
    ⟨_, .element names (by decide +kernel), rfl, by decide +kernel⟩
  have parts : Users.farewell.zip run.value =
      [(("1", .plain .post "/users" (Users.bodyNaming "dora")), first)] ++
        (("2", .plain .delete "/users/i" ""), confirmed) :: (Users.farewell.drop 2).zip rest := by
    rw [values]
    rfl
  obtain ⟨nobody, hidden⟩ := stays _ _ _ confirmed "i" parts addressed rfl done
  refine ⟨nobody, fun p among => (hidden p.1 p.2 ?_).1⟩
  rw [values] at among
  exact among

end ResourceApi

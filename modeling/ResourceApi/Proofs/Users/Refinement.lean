import ResourceApi.Proofs.Users.Listing
import ResourceApi.Proofs.Users.Requests

/-!
# The application keeps a directory

Looked at as a directory (`Users.directory`), the store answers each demand by the step of it (`Users.step_of_demand`). So
every conversation with the application is one with a directory (`users_refine_directory`).
-/

namespace ResourceApi

/-! ## Directories -/

namespace Directory

/-- Users have the ids under which they stand, and these were given to them. -/
structure Sound (d : Directory) : Prop where
  id_eq : ∀ {id user}, d.user? id = some user → user.id = id
  given : ∀ {id user}, d.user? id = some user → id ∈ d.given

theorem sound_empty : empty.Sound where
  id_eq h := nomatch h
  given h := nomatch h

/-- A directory stays sound when a user is put under its own id, if that was given out. -/
theorem Sound.put {d : Directory} (sound : d.Sound) {id : String} {user : Entity} (own : user.id = id)
    (given : id ∈ d.given) : (d.put id user).Sound := by
  constructor
  · intro other found h
    simp only [Directory.put] at h
    split at h
    · next same =>
      cases h
      exact own.trans same.symm
    · exact sound.id_eq h
  · intro other found h
    simp only [Directory.put] at h
    split at h
    · next same =>
      rw [same]
      exact given
    · exact sound.given h

theorem Sound.drop {d : Directory} (sound : d.Sound) (id : String) : (d.drop id).Sound := by
  have kept {other : String} {user : Entity} (h : (d.drop id).user? other = some user) : d.user? other = some user := by
    simp only [Directory.drop] at h
    split at h
    · cases h
    · exact h
  exact ⟨fun h => sound.id_eq (kept h), fun h => sound.given (kept h)⟩

/-- Every step keeps a directory sound. -/
theorem Step.sound {d d' : Directory} {demand : Demand} {answer : Answer} (h : d.Step demand answer d')
    (sound : d.Sound) : d'.Sound := by
  cases h with
  | @added user id new free =>
    -- The id is given before the user stands under it.
    have more : Sound { d with given := id :: d.given } :=
      ⟨fun h => sound.id_eq h, fun h => List.mem_cons_of_mem _ (sound.given h)⟩
    exact more.put rfl List.mem_cons_self
  | changed stored written => exact sound.put (written.id_eq.trans (sound.id_eq stored)) (sound.given stored)
  | removed stored => exact sound.drop _
  | notChanged | notRemoved | found | notFound | selected | noneSelected | listed | told => exact sound

end Directory

namespace Users

/-- The store as a directory. -/
def directory (mint : Nat → String) (users : Users) : Directory where
  user? := users.stored.get?
  given := (List.range users.issued).reverse.map mint

section

variable {mint : Nat → String} (users : Users)

/-- The next id was not given before, if no id is made twice. -/
theorem next_not_given (distinct : Function.Injective mint) : mint users.issued ∉ (users.directory mint).given := by
  intro given
  obtain ⟨n, earlier, same⟩ := List.mem_map.1 given
  rw [distinct same, List.mem_reverse, List.mem_range] at earlier
  exact Nat.lt_irrefl _ earlier

/-- Storing a created user puts it in the directory under the next id. -/
theorem directory_create (user : Entity) :
    directory mint ⟨users.stored.insert (mint users.issued) { user with id := mint users.issued }, users.issued + 1⟩ =
      (users.directory mint).add (mint users.issued) user := by
  unfold directory Directory.add Directory.put
  simp only [List.range_succ, List.reverse_append, List.reverse_singleton, List.singleton_append, List.map_cons]
  congr
  funext other
  exact users.stored.get?_insert _ other _

/-- Storing a user puts it in the directory. -/
theorem directory_insert (id : String) (user : Entity) :
    directory mint { users with stored := users.stored.insert id user } = (users.directory mint).put id user := by
  unfold directory Directory.put
  congr
  funext other
  exact users.stored.get?_insert id other user

/-- Erasing a user drops it from the directory. -/
theorem directory_erase (id : String) :
    directory mint { users with stored := users.stored.erase id } = (users.directory mint).drop id := by
  unfold directory Directory.drop
  congr
  funext other
  exact users.stored.get?_erase id other

/-- Overwriting values is what merging does. -/
theorem overwrites_merge (old sent : Entity) (id : String) : old.Overwrites sent (old.merge { sent with id := id }) where
  id_eq := Entity.id_merge _ _
  get?_eq := Entity.get?_merge old { sent with id := id }

/-- A user is only ever added under the next id. -/
theorem id_of_created {demand : Demand} {user : Entity} (h : users.answer mint demand = .created user) :
    user.id = mint users.issued := by
  cases demand with
  | add sent =>
    cases h
    rfl
  | change | remove | find | select =>
    simp only [answer] at h
    split at h <;> cases h
  | list | methods => cases h

/-- What the store makes of a demand is a step of the directory. -/
theorem step_of_demand (distinct : Function.Injective mint) (sound : (users.directory mint).Sound) (demand : Demand) :
    (users.directory mint).Step demand (users.answer mint demand) ((users.after mint demand).directory mint) := by
  cases demand with
  | add user =>
    have new := users.next_not_given distinct
    have free : (users.directory mint).user? (mint users.issued) = none :=
      Option.eq_none_iff_forall_ne_some.2 fun user stored => new (sound.given stored)
    rw [after, directory_create]
    exact .added new free
  | change id sent =>
    cases stored : users.stored.get? id with
    | none =>
      simp only [after, answer, stored]
      exact .notChanged stored
    | some old =>
      simp only [after, answer, stored, directory_insert]
      exact .changed stored (overwrites_merge old sent id)
  | remove id =>
    cases stored : users.stored.get? id with
    | none =>
      simp only [after, answer, stored]
      exact .notRemoved stored
    | some old =>
      simp only [after, answer, stored, directory_erase]
      exact .removed stored
  | find id =>
    cases stored : users.stored.get? id with
    | none =>
      simp only [after, answer, stored]
      exact .notFound stored
    | some user =>
      simp only [after, answer, stored]
      exact .found stored
  | select ids =>
    by_cases none : users.select ids = []
    · simp only [after, answer, if_pos none]
      exact .noneSelected none
    · simp only [after, answer, if_neg none]
      exact .selected none
  | list =>
    obtain ⟨once, all⟩ := listing_spec (fun _ _ => sound.id_eq) (.refl users.stored.values)
    exact .listed once all
  | methods shape => exact .told shape

end

/-! ## Requests -/

/-- An answer is told as it is to be, if the path of a user who was added may be sent. -/
theorem ofResult_result {mount : Mount} (mounted : ∀ segment ∈ mount.segments, Headers.Sendable segment)
    {answer : Answer} (sendable : ∀ user, answer = .created user → Headers.Sendable user.id) (requestId : String) :
    Response.ofResult requestId (answer.result mount) = answer.bareResponse mount requestId := by
  cases answer with
  | created user =>
    have below : Headers.Sendable "/users/" := by decide +kernel
    have path := ((Mount.sendable_path mounted).append below).append (sendable user rfl)
    rw [Answer.result, Response.ofResult_created, Headers.value?_of_sendable path]
    rfl
  | _ => rfl

/-- The status of a response is that of the answer. -/
theorem status_response (mount : Mount) (requestId : String) (answer : Answer) :
    (answer.response mount requestId).status = answer.status := by
  unfold Answer.response
  rw [Response.status_finish]
  cases answer <;> rfl

/-- Each request is one step of a directory, or it is refused. -/
theorem serves {mint : Nat → String} (distinct : Function.Injective mint) (sendable : ∀ n, Headers.Sendable (mint n))
    {mount : Mount} (mounted : ∀ segment ∈ mount.segments, Headers.Sendable segment) {registry : Registry Users}
    (built : Users.registry mint = .ok registry) {users : Users} (sound : (users.directory mint).Sound)
    (request : String × RawRequest) :
    let run := ((registry.api mount).respond request.1 request.2).run registry.backend users
    Serves mount request (users.directory mint) run.value (run.state.directory mint) := by
  intro run
  constructor
  · intro demand asks
    obtain ⟨value, state⟩ : run.value = _ ∧ run.state = _ := respond_of_asks built users asks request.1
    have named (user : Entity) (created : users.answer mint demand = .created user) : Headers.Sendable user.id :=
      users.id_of_created created ▸ sendable users.issued
    rw [value, state, ofResult_result mounted named]
    exact ⟨_, users.step_of_demand distinct sound demand, rfl⟩
  · intro idle
    obtain ⟨failed, state⟩ : 400 ≤ run.value.status ∧ run.state = users := respond_of_no_demand built users idle request.1
    rw [state]
    exact ⟨rfl, failed⟩

/-- So sound directories are taken to sound ones. -/
theorem Serves.sound {mount : Mount} {request : String × RawRequest} {response : Response} {d d' : Directory}
    (h : Serves mount request d response d') (sound : d.Sound) : d'.Sound := by
  by_cases asks : ∃ demand, Asks mount request.2 demand
  · obtain ⟨demand, asks⟩ := asks
    obtain ⟨answer, step, -⟩ := h.asked demand asks
    exact step.sound sound
  · obtain ⟨same, -⟩ := h.refused (not_exists.1 asks)
    exact same ▸ sound

end Users

/-- Every conversation with the application, from a store without users, is one with a directory: each request that demands
something of it is answered by the step of this demand, each other request is refused and changes nothing, and what is
stored in the end is what the directory holds. It takes that no id is made twice, and that the ids and the path of the
mount point may stand in header fields. -/
theorem users_refine_directory {mint : Nat → String} (distinct : Function.Injective mint)
    (sendable : ∀ n, Headers.Sendable (mint n)) {mount : Mount}
    (mounted : ∀ segment ∈ mount.segments, Headers.Sendable segment) {registry : Registry Users}
    (built : Users.registry mint = .ok registry) (requests : List (String × RawRequest)) :
    let run := ((registry.api mount).respondAll requests).run registry.backend Users.empty
    Conversation (Users.Serves mount) requests Directory.empty run.value (run.state.directory mint) := by
  have step (request : String × RawRequest) (users : Users) (sound : (users.directory mint).Sound) :
      let run := ((registry.api mount).respond request.1 request.2).run registry.backend users
      (run.state.directory mint).Sound ∧
        Users.Serves mount request (users.directory mint) run.value (run.state.directory mint) := by
    have served := Users.serves distinct sendable mounted built sound request
    exact ⟨served.sound sound, served⟩
  have start : Users.empty.directory mint = Directory.empty := rfl
  have talked := (registry.api mount).conversation_of_steps registry.backend (Users.directory mint)
    (fun request (_ : request ∈ requests) => step request) (start ▸ Directory.sound_empty)
  exact start ▸ talked.2

namespace Users

theorem tally_injective : Function.Injective tally := by
  intro n m same
  have lengths := congrArg List.length (String.ofList_injective same)
  rw [List.length_replicate, List.length_replicate] at lengths
  exact Nat.succ.inj lengths

theorem sendable_tally (n : Nat) : Headers.Sendable (tally n) := by
  have stroke : ∀ b ∈ String.utf8EncodeChar 'i', Headers.isValueByte b = true := by decide +kernel
  intro b hb
  rw [Utf8.encode, tally, String.toList_ofList] at hb
  obtain ⟨c, hc, hb⟩ := List.mem_flatMap.1 hb
  obtain ⟨-, rfl⟩ := List.mem_replicate.1 hc
  exact stroke b hb

/-- A user is added, renamed, shown, removed and looked for. -/
def talk : List (String × RawRequest) :=
  [("1", .plain .post "/users" (bodyNaming "dora")), ("2", .plain .put "/users/i" (bodyNaming "dieter")),
    ("3", .plain .get "/users/i,ii" ""), ("4", .plain .delete "/users/i" ""), ("5", .plain .get "/users/i" "")]

end Users

/-- Users whose ids are tallies answer five requests as a directory does: one is added, changed, found, removed and then
missed. -/
theorem tallied_users_refine_directory :
    let registry := Users.served Users.tally
    let run := ((registry.api .root).respondAll Users.talk).run registry.backend Users.empty
    run.value.map Response.status = [.created, .noContent, .ok, .noContent, .notFound] ∧
      Conversation (Users.Serves .root) Users.talk Directory.empty run.value (run.state.directory Users.tally) := by
  refine ⟨by decide +kernel, ?_⟩
  exact users_refine_directory Users.tally_injective Users.sendable_tally (List.forall_mem_nil _)
    (Users.registry_eq Users.tally) Users.talk

end ResourceApi

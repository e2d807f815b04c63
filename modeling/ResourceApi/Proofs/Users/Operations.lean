import ResourceApi.Proofs.Api.Writes
import ResourceApi.Proofs.Document.Unrelated
import ResourceApi.Proofs.Plan.Acting
import ResourceApi.Proofs.Users.Directory

/-!
# What operations do to the users

The application serves one type, whose schema declares one attribute and no relations. So every operation comes down to
what the store does, and to showing the users that it answers with.
-/

namespace ResourceApi.Users

theorem typeName_schema : schema.typeName = "users" := by decide +kernel

theorem attributes_schema : schema.attributes = [⟨"username", .scalar⟩] := by decide +kernel

theorem relations_schema : schema.relations = [] := by decide +kernel

/-- A user goes by a name if it has this as its value. -/
theorem username_eq_iff {user : Entity} {name : String} (nonempty : name ≠ "") :
    username user = name ↔ user.get? "username" = some (.str name) := by
  unfold username Entity.text?
  cases user.get? "username" with
  | none => simp [Ne.symm nonempty]
  | some value => cases value <;> simp [Json.str?, Ne.symm nonempty]

/-! ## Showing users -/

/-- A user is shown with its id, its type and its name, if it has one. -/
theorem render_eq (user : Entity) : (Record.mk schema user).render SortedMap.empty = shown user := by
  have later : Text.before "type" "id" = false := by decide +kernel
  have last : Text.before "username" "id" = false ∧ Text.before "username" "type" = false := by decide +kernel
  unfold Record.render shown
  simp only [attributes_schema, relations_schema, typeName_schema, List.isEmpty_nil, if_true, List.foldl_cons,
    List.foldl_nil, Record.showAttribute, Json.object]
  cases user.get? "username" with
  | none => simp [SortedMap.insert, SortedMap.empty, Entries.insert, later]
  | some value => simp [SortedMap.insert, SortedMap.empty, Entries.insert, later, last]

/-- The report of a user shows it alone. -/
theorem reportOf_eq (v : Viewpoint) (user : Entity) :
    ∃ report, v.reportOf ⟨schema, user⟩ = pure report ∧ report.document = ⟨shown user, []⟩ :=
  ⟨_, v.reportOf_of_unrelated relations_schema, congrArg (Document.mk · []) (render_eq user)⟩

/-- The report of users shows them in their order. -/
theorem reportOfAll_eq (v : Viewpoint) (users : List Entity) :
    ∃ report, v.reportOfAll (users.map (⟨schema, ·⟩)) = pure report ∧ report.document = ⟨.arr (users.map shown), []⟩ := by
  have unrelated : ∀ r ∈ users.map (Record.mk schema), r.schema.relations = [] := by
    intro r hr
    obtain ⟨user, -, rfl⟩ := List.mem_map.1 hr
    exact relations_schema
  refine ⟨_, v.reportOfAll_of_unrelated unrelated, congrArg (Document.mk · []) ?_⟩
  rw [Primary.json, List.map_map, List.map_map]
  exact congrArg Json.arr (List.map_congr_left fun user _ => render_eq user)

section

variable {σ : Type} (backend : Backend σ) (api : Api) (mint : Nat → String) (request : Request)

/-- Listed users are answered as they are shown, with nothing linked and no call made. -/
theorem act_tell_list (users : List Entity) (s : σ) :
    (api.tell (resource mint).offering request .list users).act backend s =
      (.ok (.document .ok ⟨.arr (users.map shown), []⟩ none), s) := by
  obtain ⟨report, reported, shows⟩ := reportOfAll_eq (api.viewpoint request) users
  unfold Api.tell
  change Engine.act backend (liftM ((api.viewpoint request).reportOfAll (users.map (⟨schema, ·⟩))) >>= _) s = _
  rw [reported, ← shows]
  rfl

/-- A fetched user is answered as it is shown, with nothing linked and no call made. -/
theorem act_tell_fetch (id : String) (user : Entity) (s : σ) :
    (api.tell (resource mint).offering request (.fetch id) user).act backend s =
      (.ok (.document .ok ⟨shown user, []⟩ none), s) := by
  obtain ⟨report, reported, shows⟩ := reportOf_eq (api.viewpoint request) user
  unfold Api.tell
  change Engine.act backend (liftM ((api.viewpoint request).reportOf ⟨schema, user⟩) >>= _) s = _
  rw [reported, ← shows]
  rfl

/-- A created user is answered as it is shown, with the path of its element as the location. -/
theorem act_tell_create (sent user : Entity) (s : σ) :
    (api.tell (resource mint).offering request (.create sent) user).act backend s =
      (.ok (.document .created ⟨shown user, []⟩ (some (api.elementPath "users" user.id))), s) := by
  obtain ⟨report, reported, shows⟩ := reportOf_eq (api.viewpoint request) user
  unfold Api.tell
  change Engine.act backend (liftM ((api.viewpoint request).reportOf ⟨schema, user⟩) >>= _) s = _
  rw [reported, ← shows, ← typeName_schema]
  rfl

end

/-! ## Operations -/

/-- The users and nothing else. -/
def served (mint : Nat → String) : Registry Users where
  resources := [resource mint]
  distinct := List.nodup_cons.2 ⟨List.not_mem_nil, .nil⟩

/-- The application serves the users and nothing else. -/
theorem registry_eq (mint : Nat → String) : Users.registry mint = .ok (served mint) := rfl

section

variable {mint : Nat → String} {registry : Registry Users} (built : Users.registry mint = .ok registry)

include built

/-- The users are found under their type, and nothing is found elsewhere. -/
theorem lookup?_eq (type : String) : registry.lookup? type = if type = "users" then some (resource mint) else none := by
  obtain rfl : served mint = registry := Except.ok.inj ((registry_eq mint).symm.trans built)
  have name : (resource mint).typeName = "users" := typeName_schema
  unfold Registry.lookup? served
  rw [List.find?_cons, List.find?_nil, name]
  by_cases same : type = "users"
  · rw [if_pos same, same]
    rfl
  · rw [if_neg same, beq_false_of_ne (Ne.symm same)]

/-- What is asked of the users is answered by the store. -/
theorem backend_eq (call : Call) (addressed : call.type = "users") :
    registry.backend call = (resource mint).answer call :=
  Registry.backend_of_some call (by rw [lookup?_eq built, if_pos addressed])

/-- A call on the users is answered by their source. -/
theorem act_call_eq (call : Call) (addressed : call.type = "users") (users : Users) :
    (Engine.call call).act registry.backend users = (resource mint).answer call users := by
  rw [Engine.act_call, backend_eq built call addressed]

variable (api : Api) (shape : Shape) (request : Request) (users : Users)

omit built in
/-- An operation of the store is done by the store and then told of. -/
theorem performOn_eq_own {operation : Operation} {hook : Hook}
    (asks : (resource mint).offering.Asks request operation (some hook)) :
    api.performOn (resource mint).offering shape request operation =
      (resource mint).offering.own request hook >>= api.tell (resource mint).offering request hook := by
  rw [api.performOn_of_hook _ shape request (Offering.hook_of_asks _ _ asks), Offering.answer_of_not_controlled _ request rfl]

omit built in
/-- An operation that is refused before it comes to the store changes nothing. -/
theorem act_of_refused {operation : Operation} {reason : ResourceApi.Refusal}
    (asked : (resource mint).offering.hook request operation = .error reason) :
    (api.performOn (resource mint).offering shape request operation).act registry.backend users =
      (.error reason.fault, users) := by
  rw [api.performOn_eq, asked]
  rfl

/-- Listing answers with every stored user in the order of the listing. -/
theorem act_list :
    (api.performOn (resource mint).offering shape request .list).act registry.backend users =
      (.ok (.document .ok ⟨.arr ((listing users.stored.values).map shown), []⟩ none), users) := by
  have own : ((resource mint).offering.own request .list).act registry.backend users = _ :=
    act_call_eq built (.list _ request) typeName_schema users
  rw [performOn_eq_own api shape request .list, Engine.act_bind_ok _ own]
  exact act_tell_list _ api mint request _ users

/-- Fetching one id answers with the user stored under it or is refused. -/
theorem act_fetch {id : String} (one : request.ids = [id]) :
    (api.performOn (resource mint).offering shape request .fetch).act registry.backend users =
      match users.stored.get? id with
      | some user => (.ok (.document .ok ⟨shown user, []⟩ none), users)
      | none => (.error Refusal.unknownUser.fault, users) := by
  have own : ((resource mint).offering.own request (.fetch id)).act registry.backend users = fetch id users :=
    act_call_eq built (.fetch _ id request) typeName_schema users
  rw [performOn_eq_own api shape request (.fetch one)]
  unfold fetch at own
  cases stored : users.stored.get? id with
  | none =>
    rw [stored] at own
    exact Engine.act_bind_error _ own _
  | some user =>
    rw [stored] at own
    rw [Engine.act_bind_ok _ own]
    exact act_tell_fetch _ api mint request id user users

/-- Fetching several ids answers with the users among them that are stored, and is refused if there are none. -/
theorem act_fetchMany :
    (api.performOn (resource mint).offering shape request .fetchMany).act registry.backend users =
      if users.select request.ids = [] then (.error (ResourceApi.Refusal.noneFound "users" request.ids).fault, users)
      else (.ok (.document .ok ⟨.arr ((users.select request.ids).map shown), []⟩ none), users) := by
  have own : (Engine.fetchMany (resource mint).offering.typeName request.ids request).act registry.backend users =
      (.ok (users.select request.ids), users) :=
    act_call_eq built (.fetchMany _ request.ids request) typeName_schema users
  unfold Api.performOn Api.fetchMany
  rw [Engine.act_bind_ok _ own]
  unfold Api.someFound
  simp only [List.isEmpty_iff]
  split
  · rw [← typeName_schema]
    rfl
  · rw [Engine.accept_ok_bind]
    exact act_tell_list _ api mint request _ users

omit built in
/-- The users have no relations to follow. -/
theorem act_follow {id : String} (one : request.ids = [id]) :
    (api.performOn (resource mint).offering shape request .follow).act registry.backend users =
      (.error (ResourceApi.Refusal.unknownRelation (request.relation.getD "") "users").fault, users) := by
  have unrelated : (resource mint).offering.relation (request.relation.getD "") =
      .error (.unknownRelation (request.relation.getD "") "users") := by
    have none : (resource mint).offering.schema.relation? (request.relation.getD "") = none := by
      unfold Schema.relation?
      exact congrArg (List.find? _) relations_schema
    unfold Offering.relation
    rw [none, ← typeName_schema]
    rfl
  unfold Api.performOn Api.follow
  rw [Request.onlyId_eq_ok_iff.2 one, Engine.accept_ok_bind, unrelated]
  rfl

/-- Creating stores the sent user under the next id, unless it comes without a name. -/
theorem act_create {user : Entity} (accepted : Entity.ofBody schema request.body = .ok user) :
    (api.performOn (resource mint).offering shape request .create).act registry.backend users =
      if username user = "" then (.error Refusal.usernameRequired.fault, users)
      else
        let id := mint users.issued
        (.ok (.document .created ⟨shown { user with id := id }, []⟩ (some (api.elementPath "users" id))),
          { stored := users.stored.insert id { user with id := id }, issued := users.issued + 1 }) := by
  have own : (Engine.create (resource mint).offering.typeName user).act registry.backend users = create mint user users :=
    act_call_eq built (.create _ user) typeName_schema users
  rw [performOn_eq_own api shape request (.create accepted)]
  unfold Offering.own Api.createAndRead
  unfold create at own
  simp only [String.isEmpty_iff] at own
  split
  · next nameless =>
    rw [if_pos nameless] at own
    exact Engine.act_bind_error _ (Engine.act_bind_error _ own _) _
  · next named =>
    rw [if_neg named] at own
    let id := mint users.issued
    let stored : Users := { stored := users.stored.insert id { user with id := id }, issued := users.issued + 1 }
    have read : (Engine.fetch (resource mint).offering.typeName id request).act registry.backend stored =
        (.ok { user with id := id }, stored) := by
      refine (act_call_eq built (.fetch _ id request) typeName_schema stored).trans ?_
      change fetch id stored = _
      unfold fetch
      rw [SortedMap.get?_insert, if_pos rfl]
    rw [Engine.act_bind_ok _ ((Engine.act_bind_ok _ own _).trans read)]
    exact act_tell_create _ api mint request user { user with id := id } stored

/-- Updating merges what was sent into the user stored under the id of the path. -/
theorem act_update {id : String} {sent : Entity} (one : request.ids = [id])
    (accepted : Entity.ofBody schema request.body = .ok sent) (own : sent.id = "" ∨ sent.id = id) :
    (api.performOn (resource mint).offering shape request .update).act registry.backend users =
      match users.stored.get? id with
      | some old => (.ok (.noContent none),
          { users with stored := users.stored.insert id (old.merge { sent with id := id }) })
      | none => (.error Refusal.unknownUser.fault, users) := by
  have done : (Engine.update (resource mint).offering.typeName { sent with id := id }).act registry.backend users =
      update { sent with id := id } users :=
    act_call_eq built (.update _ { sent with id := id }) typeName_schema users
  rw [performOn_eq_own api shape request (.update one accepted (Entity.under_eq_ok_iff.2 ⟨own, rfl⟩))]
  unfold Offering.own
  unfold update at done
  cases stored : users.stored.get? id with
  | none =>
    simp only [stored] at done
    exact Engine.act_bind_error _ done _
  | some old =>
    simp only [stored] at done
    exact Engine.act_bind_ok _ done _

/-- Deleting drops the user stored under the id of the path. -/
theorem act_delete {id : String} (one : request.ids = [id]) :
    (api.performOn (resource mint).offering shape request .delete).act registry.backend users =
      match users.stored.get? id with
      | some _ => (.ok (.noContent none), { users with stored := users.stored.erase id })
      | none => (.error Refusal.unknownUser.fault, users) := by
  have done : (Engine.delete (resource mint).offering.typeName id).act registry.backend users = delete id users :=
    act_call_eq built (.delete _ id) typeName_schema users
  rw [performOn_eq_own api shape request (.delete one)]
  unfold Offering.own
  unfold delete SortedMap.contains at done
  cases stored : users.stored.get? id with
  | none =>
    simp only [stored, Option.isSome_none, Bool.false_eq_true, if_false] at done
    exact Engine.act_bind_error _ done _
  | some old =>
    simp only [stored, Option.isSome_some, if_true] at done
    exact Engine.act_bind_ok _ done _

end

end ResourceApi.Users

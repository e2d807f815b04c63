import ResourceApi.Proofs.Users.Requests

/-!
# Who has a name

A user is only added with a name, but a change may take the name away: it may set it to an empty text, or to what is no
text. So every user has a value for the name in every state (`usernames_up_to_changes`), and a name as long as no change
gives another value (`Users.named_after_change_iff`).
-/

namespace ResourceApi

namespace Users

/-- A user has a name that is a text and not empty. -/
def Named (user : Entity) : Prop :=
  ∃ name, name ≠ "" ∧ user.get? "username" = some (.str name)

/-- A change gives no value for the name, or one that is a name. -/
def KeepsName (sent : Entity) : Prop :=
  ∀ value, sent.get? "username" = some value → ∃ name, name ≠ "" ∧ value = .str name

/-- All stored users are of a kind. -/
def All (kind : Entity → Prop) (users : Users) : Prop :=
  ∀ id user, users.stored.get? id = some user → kind user

theorem all_empty (kind : Entity → Prop) : empty.All kind :=
  fun _ _ h => nomatch h

variable {mint : Nat → String} {users : Users} {kind : Entity → Prop}

/-- A demand keeps all users of a kind if the user who is added is of the kind, and the user who is changed stays so. -/
theorem All.after (h : users.All kind) {demand : Demand}
    (added : ∀ user, demand = .add user → kind { user with id := mint users.issued })
    (changed : ∀ id sent old, demand = .change id sent → kind old → kind (old.merge { sent with id := id })) :
    (users.after mint demand).All kind := by
  cases demand with
  | add user => exact SortedMap.forall_get?_insert h (added user rfl)
  | change id sent =>
    simp only [Users.after]
    split
    · next old stored => exact SortedMap.forall_get?_insert h (changed id sent old rfl (h id old stored))
    · exact h
  | remove id =>
    simp only [Users.after]
    split
    · exact SortedMap.forall_get?_erase h id
    · exact h
  | find | select | list | methods => exact h

/-- A user who is changed keeps the name unless the change gives another value for it. -/
theorem Named.merge {old sent : Entity} (h : Named old) (keeps : KeepsName sent) (id : String) :
    Named (old.merge { sent with id := id }) := by
  obtain ⟨name, nonempty, named⟩ := h
  have merged := Entity.get?_merge old { sent with id := id } "username"
  cases given : sent.get? "username" with
  | none => exact ⟨name, nonempty, merged.trans (by rw [← named]; exact congrArg (Option.or · _) given)⟩
  | some value =>
    obtain ⟨other, nonempty, rfl⟩ := keeps value given
    exact ⟨other, nonempty, merged.trans (congrArg (Option.or · _) given)⟩

/-- Where all users have names, a change to a stored user leaves it so if it gives no value for the name or one that is a
name, and in no other case. -/
theorem named_after_change_iff (named : users.All Named) {id : String} {old : Entity}
    (stored : users.stored.get? id = some old) (sent : Entity) :
    (users.after mint (.change id sent)).All Named ↔ KeepsName sent := by
  constructor
  · intro after value given
    have changed : (users.after mint (.change id sent)).stored.get? id = some (old.merge { sent with id := id }) := by
      simp only [Users.after, stored]
      rw [SortedMap.get?_insert, if_pos rfl]
    obtain ⟨name, nonempty, merged⟩ := after id _ changed
    have kept : some value = some (.str name) := by
      rw [← merged, Entity.get?_merge]
      exact congrArg (Option.or · _) given.symm
    exact ⟨name, nonempty, Option.some.inj kept⟩
  · intro keeps
    refine named.after (fun user same => ?_) fun other sent' old same holds => ?_
    · cases same
    · cases same
      exact holds.merge keeps _

/-- What holds of a new user with a name, and of a user after each change that is asked for, holds of all users in the
state after a request. -/
theorem All.respond {registry : Registry Users} (built : Users.registry mint = .ok registry) {mount : Mount}
    (h : users.All kind) (requestId : String) {raw : RawRequest}
    (added : ∀ user, Asks mount raw (.add user) → kind { user with id := mint users.issued })
    (changed : ∀ id sent old, Asks mount raw (.change id sent) → kind old → kind (old.merge { sent with id := id })) :
    (((registry.api mount).respond requestId raw).run registry.backend users).state.All kind := by
  by_cases asks : ∃ demand, Asks mount raw demand
  · obtain ⟨demand, asks⟩ := asks
    rw [(respond_of_asks built users asks requestId).2]
    refine h.after (fun user same => ?_) fun id sent old same => ?_
    · exact added user (same ▸ asks)
    · exact changed id sent old (same ▸ asks)
  · rw [(respond_of_no_demand built users (not_exists.1 asks) requestId).2]
    exact h

/-- Who is added has a name. -/
theorem Asks.named {mount : Mount} {raw : RawRequest} {user : Entity} (h : Asks mount raw (.add user)) : Named user := by
  obtain ⟨shape, request, -, -, demands⟩ := h
  cases demands with
  | add method accepted named nonempty => exact ⟨_, nonempty, named⟩

/-- A change to a name keeps a name. -/
theorem keepsName_of_username {sent : Entity} {name : String} (given : username sent = name) (nonempty : name ≠ "") :
    KeepsName sent := by
  intro value held
  rw [(username_eq_iff nonempty).1 given] at held
  exact ⟨name, nonempty, (Option.some.inj held).symm⟩

/-- A change gives what the body says. -/
theorem Asks.change_accepted {mount : Mount} {method : Method} {path body : String} {id : String} {sent : Entity}
    (h : Asks mount (.plain method path body) (.change id sent)) :
    method = .put ∧ Entity.ofBody schema (Utf8.encode body) = .ok sent := by
  obtain ⟨shape, request, routes, -, demands⟩ := h
  cases demands with
  | change put one accepted own =>
    cases routes with
    | element names some =>
      obtain rfl := Except.ok.inj names.whole
      exact ⟨put, by rwa [← List.append_nil (Utf8.encode body)]⟩

end Users

/-- In every state that a conversation comes to, every user has a value for the name. It is a name, that is a text and not
empty, for every user if every change that was asked for gives no value for it or one that is a name. -/
theorem usernames_up_to_changes {mint : Nat → String} {registry : Registry Users}
    (built : Users.registry mint = .ok registry) (mount : Mount) (requests : List (String × RawRequest)) :
    let users := (((registry.api mount).respondAll requests).run registry.backend Users.empty).state
    users.All (fun user => (user.get? "username").isSome = true) ∧
      ((∀ request ∈ requests, ∀ id sent, Users.Asks mount request.2 (.change id sent) → Users.KeepsName sent) →
        users.All Users.Named) := by
  constructor
  · refine (registry.api mount).state_of_steps registry.backend (fun request _ users h => ?_) (Users.all_empty _)
    refine h.respond built request.1 (fun user asks => ?_) fun id sent old asks holds => ?_
    · obtain ⟨name, -, named⟩ := asks.named
      exact Option.isSome_of_eq_some named
    · rw [Entity.get?_merge, Option.isSome_or, holds, Bool.or_true]
  · intro keeps
    refine (registry.api mount).state_of_steps registry.backend (fun request hrequest users h => ?_) (Users.all_empty _)
    refine h.respond built request.1 (fun user asks => asks.named) fun id sent old asks holds => ?_
    exact holds.merge (keeps request hrequest id sent asks) id

/-- A user is added and then given another name. -/
def Users.baptism (name : String) : List (String × RawRequest) :=
  [("1", .plain .post "/users" (bodyNaming "dora")), ("2", .plain .put "/users/i" (bodyNaming name))]

/-- A user who is created under one name and then given another still has a name. -/
theorem baptized_up_to_changes :
    let run := (((Users.served Users.tally).api .root).respondAll (Users.baptism "dieter")).run
      (Users.served Users.tally).backend Users.empty
    run.value.map Response.status = [.created, .noContent] ∧ run.state.size = 1 ∧ run.state.All Users.Named := by
  refine ⟨by decide +kernel, by decide +kernel, ?_⟩
  refine (usernames_up_to_changes (Users.registry_eq Users.tally) .root (Users.baptism "dieter")).2 ?_
  intro request hrequest id sent asks
  rcases List.mem_cons.1 hrequest with rfl | hrequest
  · exact absurd asks.change_accepted.1 (by decide)
  · obtain rfl := List.mem_singleton.1 hrequest
    have given : (Entity.ofBody Users.schema (Utf8.encode (Users.bodyNaming "dieter"))).toOption.map Users.username =
        some "dieter" := by decide +kernel
    rw [asks.change_accepted.2] at given
    exact Users.keepsName_of_username (Option.some.inj given) (by decide)

/-- The rule that every user has a name is kept when users are added, but not when they are changed: a user may be given
the empty name. -/
theorem empty_name_accepted :
    let run := (((Users.served Users.tally).api .root).respondAll (Users.baptism "")).run
      (Users.served Users.tally).backend Users.empty
    run.value.map Response.status = [.created, .noContent] ∧ ¬run.state.All Users.Named := by
  have facts :
      let run := (((Users.served Users.tally).api .root).respondAll (Users.baptism "")).run
        (Users.served Users.tally).backend Users.empty
      run.value.map Response.status = [.created, .noContent] ∧
        (run.state.stored.get? "i").map Users.username = some "" := by decide +kernel
  generalize (((Users.served Users.tally).api .root).respondAll (Users.baptism "")).run
    (Users.served Users.tally).backend Users.empty = run at facts ⊢
  obtain ⟨accepted, nameless⟩ := facts
  obtain ⟨user, stored, empty⟩ := Option.map_eq_some_iff.1 nameless
  refine ⟨accepted, fun all => ?_⟩
  obtain ⟨name, nonempty, named⟩ := all "i" user stored
  exact nonempty (((Users.username_eq_iff nonempty).2 named).symm.trans empty)

end ResourceApi

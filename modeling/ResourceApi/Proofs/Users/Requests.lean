import ResourceApi.Proofs.Api.Conversation
import ResourceApi.Proofs.Users.Operations

/-!
# What requests do to the users

A request that demands something of the users is answered by the store (`Users.answer`) and leaves it as the demand says
(`Users.after`); any other request is refused and leaves it as it is. This holds of every store and below every mount point
(`Users.respond_of_asks`, `Users.respond_of_no_demand`).
-/

namespace ResourceApi

/-- The operation that a demand comes to. -/
def Demand.operation : Demand → Operation
  | .add _ => .create
  | .change _ _ => .update
  | .remove _ => .delete
  | .find _ => .fetch
  | .select _ => .fetchMany
  | .list => .list
  | .methods _ => .options

/-- What comes of a request with an answer. -/
def Answer.result (mount : Mount) : Answer → Except Fault Outcome
  | created user => .ok (.document .created ⟨Users.shown user, []⟩ (some (mount.path ++ "/users/" ++ user.id)))
  | done => .ok (.noContent none)
  | one user => .ok (.document .ok ⟨Users.shown user, []⟩ none)
  | many users => .ok (.document .ok ⟨.arr (users.map Users.shown), []⟩ none)
  | methods shape => .ok (.noContent (some shape.allow))
  | unknown => .error Users.Refusal.unknownUser.fault
  | noneOf ids => .error (Refusal.noneFound "users" ids).fault

namespace Users

/-- What a demand makes of the store. -/
def after (mint : Nat → String) (users : Users) : Demand → Users
  | .add user => ⟨users.stored.insert (mint users.issued) { user with id := mint users.issued }, users.issued + 1⟩
  | .change id sent =>
    match users.stored.get? id with
    | some old => { users with stored := users.stored.insert id (old.merge { sent with id := id }) }
    | none => users
  | .remove id =>
    match users.stored.get? id with
    | some _ => { users with stored := users.stored.erase id }
    | none => users
  | .find _ | .select _ | .list | .methods _ => users

/-- What the store answers to a demand. -/
def answer (mint : Nat → String) (users : Users) : Demand → Answer
  | .add user => .created { user with id := mint users.issued }
  | .change id _ | .remove id =>
    match users.stored.get? id with
    | some _ => .done
    | none => .unknown
  | .find id =>
    match users.stored.get? id with
    | some user => .one user
    | none => .unknown
  | .select ids => if users.select ids = [] then .noneOf ids else .many (users.select ids)
  | .list => .many (listing users.stored.values)
  | .methods shape => .methods shape

/-- A demand stands for the operation that shape, method and number of ids pick. -/
theorem Demands.picks {shape : Shape} {request : Request} {demand : Demand} (h : Demands shape request demand) :
    Operation.Picks shape request.method request.ids.length demand.operation := by
  cases h with
  | add method _ _ _ => exact method ▸ .create _
  | change method one _ _ =>
    rw [method, one]
    exact .update
  | remove method one =>
    rw [method, one]
    exact .delete
  | find method one =>
    rw [method, one]
    exact .fetch
  | select method several => exact method ▸ .fetchMany several
  | list method => exact method ▸ .list _
  | methods method => exact method ▸ .options _ _

section

variable {mint : Nat → String} {registry : Registry Users} (built : Users.registry mint = .ok registry) {mount : Mount}
  {shape : Shape} {request : Request} (users : Users)

include built

/-- A request that leads to the users is an operation on them. -/
theorem perform_eq_performOn (addressed : request.resource = "users") {operation : Operation}
    (picks : Operation.Picks shape request.method request.ids.length operation) :
    (registry.api mount).perform shape request =
      (registry.api mount).performOn (resource mint).offering shape request operation := by
  rw [Registry.perform_eq, lookup?_eq built, if_pos addressed]
  simp only [Operation.of_eq_ok_iff.2 picks, Engine.accept_ok_bind]

omit built in
theorem elementPath_eq (id : String) : (registry.api mount).elementPath "users" id = mount.path ++ "/users/" ++ id := by
  have parts : "/users/" = "/" ++ ("users" ++ "/") := rfl
  unfold Api.elementPath
  simp only [parts, String.append_assoc]
  rfl

/-- What a request demands of the users is done and answered by the store. -/
theorem act_of_demands (addressed : request.resource = "users") {demand : Demand}
    (demands : Demands shape request demand) :
    ((registry.api mount).perform shape request).act registry.backend users =
      ((users.answer mint demand).result mount, users.after mint demand) := by
  rw [perform_eq_performOn built addressed demands.picks]
  cases demands with
  | @add _ user name method accepted named nonempty =>
    have username_eq : username user = name := (username_eq_iff nonempty).2 named
    simp only [Demand.operation, act_create built _ _ _ users accepted, username_eq, if_neg nonempty, elementPath_eq]
    rfl
  | @change _ id sent method one accepted own =>
    simp only [Demand.operation, act_update built _ _ _ users one accepted own, answer, after]
    cases users.stored.get? id <;> rfl
  | @remove _ id method one =>
    simp only [Demand.operation, act_delete built _ _ _ users one, answer, after]
    cases users.stored.get? id <;> rfl
  | @find _ id method one =>
    simp only [Demand.operation, act_fetch built _ _ _ users one, answer, after]
    cases users.stored.get? id <;> rfl
  | select method several =>
    simp only [Demand.operation, act_fetchMany built, answer, after]
    split <;> rfl
  | list method => exact act_list built _ _ _ users
  | methods method => rfl

/-- A request that demands nothing is refused, and nothing changes. -/
theorem act_of_no_demand {raw : RawRequest} (routes : mount.Routes raw shape request)
    (idle : request.resource = "users" → ∀ demand, ¬Demands shape request demand) :
    ∃ fault, ((registry.api mount).perform shape request).act registry.backend users = (.error fault, users) ∧
      400 ≤ fault.status := by
  rcases registry.perform_cases mount shape request with ⟨reason, refused⟩ | ⟨r, operation, served, picked, performed⟩
  · rw [refused]
    exact ⟨reason.fault, rfl, reason.le_status_fault⟩
  rw [lookup?_eq built] at served
  split at served
  · next addressed =>
    obtain rfl := Option.some.inj served
    rw [performed]
    have idle := idle addressed
    have picks := Operation.of_eq_ok_iff.1 picked
    -- All operations but one are demanded, unless the body is refused or names no user: relations cannot be followed.
    generalize method : request.method = m at picks
    generalize count : request.ids.length = n at picks
    cases picks with
    | options => exact absurd (.methods method) (idle _)
    | list => exact absurd (.list method) (idle _)
    | create =>
      cases asked : (resource mint).offering.hook request .create with
      | error reason => exact ⟨_, act_of_refused _ _ request users asked, reason.le_status_fault⟩
      | ok hook =>
        cases (resource mint).offering.asks_of_hook request asked with
        | @create user accepted =>
          rw [act_create built _ _ request users accepted]
          split
          · exact ⟨_, rfl, Nat.le_refl 400⟩
          · next nonempty => exact absurd (.add method accepted ((username_eq_iff nonempty).1 rfl) nonempty) (idle _)
    | fetch =>
      obtain ⟨id, one⟩ := List.length_eq_one_iff.1 count
      exact absurd (.find method one) (idle _)
    | update =>
      cases asked : (resource mint).offering.hook request .update with
      | error reason => exact ⟨_, act_of_refused _ _ request users asked, reason.le_status_fault⟩
      | ok hook =>
        cases (resource mint).offering.asks_of_hook request asked with
        | update one accepted placed =>
          exact absurd (.change method one accepted (Entity.under_eq_ok_iff.1 placed).1) (idle _)
    | delete =>
      obtain ⟨id, one⟩ := List.length_eq_one_iff.1 count
      exact absurd (.remove method one) (idle _)
    | fetchMany several => exact absurd (.select method (count ▸ several)) (idle _)
    | follow =>
      cases routes with
      | relation names one => exact ⟨_, act_follow _ _ _ users rfl, ResourceApi.Refusal.le_status_fault _⟩
  · cases served

/-- A request that demands something of the users is answered by the store. -/
theorem respond_of_asks {raw : RawRequest} {demand : Demand} (asks : Asks mount raw demand) (requestId : String) :
    let run := ((registry.api mount).respond requestId raw).run registry.backend users
    run.value = (Response.ofResult requestId ((users.answer mint demand).result mount)).finish requestId ∧
      run.state = users.after mint demand := by
  obtain ⟨shape, request, routes, addressed, demands⟩ := asks
  have received : (registry.api mount).receive raw = .ok (shape, request) := Api.receive_of_routes routes
  have responded := Api.run_respond_eq_act _ registry.backend received requestId users
  rwa [act_of_demands built users addressed demands] at responded

/-- Any other request ends in a fault and leaves the store as it is. -/
theorem fault_of_no_demand {raw : RawRequest} (idle : ∀ demand, ¬Asks mount raw demand) (requestId : String) :
    let run := ((registry.api mount).respond requestId raw).run registry.backend users
    (∃ fault : Fault, 400 ≤ fault.status ∧ run.value = (fault.response requestId).finish requestId) ∧
      run.state = users := by
  intro run
  cases received : (registry.api mount).receive raw with
  | error reason =>
    have refused := Api.run_respond_of_refused _ requestId received registry.backend users
    exact ⟨⟨reason.fault, reason.le_status_fault, congrArg Run.value refused⟩, congrArg Run.state refused⟩
  | ok routed =>
    obtain ⟨shape, request⟩ := routed
    have routes : mount.Routes raw shape request := Api.routes_of_receive received
    obtain ⟨fault, acted, failed⟩ := act_of_no_demand built users routes fun addressed demand demands =>
      idle demand ⟨shape, request, routes, addressed, demands⟩
    obtain ⟨value, state⟩ := Api.run_respond_eq_act _ registry.backend received requestId users
    rw [acted] at value state
    exact ⟨⟨fault, failed, value⟩, state⟩

/-- So it is refused. -/
theorem respond_of_no_demand {raw : RawRequest} (idle : ∀ demand, ¬Asks mount raw demand) (requestId : String) :
    let run := ((registry.api mount).respond requestId raw).run registry.backend users
    400 ≤ run.value.status ∧ run.state = users := by
  intro run
  obtain ⟨⟨fault, failed, value⟩, state⟩ := fault_of_no_demand built users idle requestId
  rw [show run.value = _ from value, Response.status_finish]
  exact ⟨Response.le_status_fault failed requestId, state⟩

end

/-- Ids that count by strokes. -/
def tally (n : Nat) : String :=
  String.ofList (List.replicate (n + 1) 'i')

/-- A body that gives a user a name. -/
def bodyNaming (name : String) : String :=
  "\x7b\"users\": \x7b\"username\": \"" ++ name ++ "\"\x7d\x7d"

end Users

end ResourceApi

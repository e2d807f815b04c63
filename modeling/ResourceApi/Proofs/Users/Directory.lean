import ResourceApi.Proofs.Http.Headers
import ResourceApi.Proofs.Route.Paths
import ResourceApi.Users.Store

/-!
# The directory of users

What the application does, without saying how: a directory holds users under ids (`Directory`), a request may demand
something of it (`Users.Asks`), and each demand takes the directory to the next by one step with one answer
(`Directory.Step`). `Users.Serves` says of a request and a response that they come to such a step, and that a request that
demands nothing is refused and changes nothing.
-/

namespace ResourceApi

/-- The users under their ids, and all ids that were ever given to users. -/
structure Directory where
  user? : String → Option Entity
  given : List String

namespace Directory

/-- A directory without users. -/
def empty : Directory where
  user? _ := none
  given := []

/-- Put a user under an id, and leave all others. -/
def put (d : Directory) (id : String) (user : Entity) : Directory :=
  { d with user? := fun other => if other = id then some user else d.user? other }

/-- Put a user under an id that was not given before. -/
def add (d : Directory) (id : String) (user : Entity) : Directory :=
  put { d with given := id :: d.given } id { user with id := id }

/-- Take the user of an id out, and leave all others. -/
def drop (d : Directory) (id : String) : Directory :=
  { d with user? := fun other => if other = id then none else d.user? other }

end Directory

/-- An entity has the id of an old one and its values, but where a sent one has a value, it has that. -/
structure Entity.Overwrites (old sent new : Entity) : Prop where
  id_eq : new.id = old.id
  get?_eq : ∀ name, new.get? name = (sent.get? name).or (old.get? name)

/-- What is demanded of a directory. -/
inductive Demand where
  /-- Add a user, under a new id. -/
  | add (user : Entity)
  /-- Overwrite values of the user of an id. -/
  | change (id : String) (sent : Entity)
  /-- Remove the user of an id. -/
  | remove (id : String)
  /-- Show the user of an id. -/
  | find (id : String)
  /-- Show the users of a list of ids. -/
  | select (ids : List String)
  /-- Show all users. -/
  | list
  /-- Say which methods apply to a route. -/
  | methods (shape : Shape)

/-- What is answered to a demand. -/
inductive Answer where
  /-- A user was added. -/
  | created (user : Entity)
  /-- Done, with nothing to show. -/
  | done
  /-- One user. -/
  | one (user : Entity)
  /-- Any number of users. -/
  | many (users : List Entity)
  /-- The methods that apply to a route. -/
  | methods (shape : Shape)
  /-- There is no user of the id. -/
  | unknown
  /-- There is no user of any of the ids. -/
  | noneOf (ids : List String)

/-- What a demand does to a directory, and what is answered to it. -/
inductive Directory.Step (d : Directory) : Demand → Answer → Directory → Prop
  | added {user : Entity} {id : String} (new : id ∉ d.given) (free : d.user? id = none) :
    Step d (.add user) (.created { user with id := id }) (d.add id user)
  | changed {id : String} {old sent user : Entity} (stored : d.user? id = some old) (written : old.Overwrites sent user) :
    Step d (.change id sent) .done (d.put id user)
  | notChanged {id : String} {sent : Entity} (unknown : d.user? id = none) : Step d (.change id sent) .unknown d
  | removed {id : String} {old : Entity} (stored : d.user? id = some old) : Step d (.remove id) .done (d.drop id)
  | notRemoved {id : String} (unknown : d.user? id = none) : Step d (.remove id) .unknown d
  | found {id : String} {user : Entity} (stored : d.user? id = some user) : Step d (.find id) (.one user) d
  | notFound {id : String} (unknown : d.user? id = none) : Step d (.find id) .unknown d
  | selected {ids : List String} (some : ids.filterMap d.user? ≠ []) :
    Step d (.select ids) (.many (ids.filterMap d.user?)) d
  | noneSelected {ids : List String} (none : ids.filterMap d.user? = []) : Step d (.select ids) (.noneOf ids) d
  /-- All users are listed, each once. -/
  | listed {users : List Entity} (once : (users.map Entity.id).Nodup)
    (all : ∀ user, user ∈ users ↔ ∃ id, d.user? id = some user) : Step d .list (.many users) d
  | told (shape : Shape) : Step d (.methods shape) (.methods shape) d

namespace Users

/-! ## Requests -/

/-- What a request that leads to the users demands. A new user has a name, and a change is for the user of the path. -/
inductive Demands : Shape → Request → Demand → Prop
  | add {request : Request} {user : Entity} {name : String} (method : request.method = .post)
    (accepted : Entity.ofBody schema request.body = .ok user) (named : user.get? "username" = some (.str name))
    (nonempty : name ≠ "") : Demands .collection request (.add user)
  | change {request : Request} {id : String} {sent : Entity} (method : request.method = .put) (one : request.ids = [id])
    (accepted : Entity.ofBody schema request.body = .ok sent) (own : sent.id = "" ∨ sent.id = id) :
    Demands .element request (.change id sent)
  | remove {request : Request} {id : String} (method : request.method = .delete) (one : request.ids = [id]) :
    Demands .element request (.remove id)
  | find {request : Request} {id : String} (method : request.method = .get) (one : request.ids = [id]) :
    Demands .element request (.find id)
  | select {request : Request} (method : request.method = .get) (several : request.ids.length ≠ 1) :
    Demands .element request (.select request.ids)
  | list {request : Request} (method : request.method = .get) : Demands .collection request .list
  | methods {shape : Shape} {request : Request} (method : request.method = .options) :
    Demands shape request (.methods shape)

/-- A request demands something of the users. -/
def Asks (mount : Mount) (raw : RawRequest) (demand : Demand) : Prop :=
  ∃ shape request, mount.Routes raw shape request ∧ request.resource = "users" ∧ Demands shape request demand

/-! ## Responses -/

/-- A user as a JSON object. -/
def shown (user : Entity) : Json :=
  .obj ([("id", .str user.id), ("type", .str "users")] ++ ((user.get? "username").map (("username", ·))).toList)

end Users

/-- The response that tells an answer, before it has what all responses carry. -/
def Answer.bareResponse (mount : Mount) (requestId : String) : Answer → Response
  | created user =>
    (Response.ofDocument .created (Json.obj [("data", Users.shown user)]).bytes requestId).setHeader "location"
      (Utf8.encode (mount.path ++ "/users/" ++ user.id))
  | done => .bare .noContent requestId
  | one user => .ofDocument .ok (Json.obj [("data", Users.shown user)]).bytes requestId
  | many users => .ofDocument .ok (Json.obj [("data", .arr (users.map Users.shown))]).bytes requestId
  | methods shape => (Response.bare .noContent requestId).setHeader "allow" (Utf8.encode shape.allow)
  | unknown => Users.Refusal.unknownUser.fault.response requestId
  | noneOf ids => (Refusal.noneFound "users" ids).fault.response requestId

/-- The response that tells an answer. -/
def Answer.response (mount : Mount) (requestId : String) (answer : Answer) : Response :=
  (answer.bareResponse mount requestId).finish requestId

/-- The status of an answer. -/
def Answer.status : Answer → Status
  | created _ => .created
  | one _ | many _ => .ok
  | done | methods _ => .noContent
  | unknown | noneOf _ => .notFound

/-- A request takes one directory to another and is responded to: if it demands something, by the step and the answer of
the demand, and otherwise by a refusal that changes nothing. -/
structure Users.Serves (mount : Mount) (request : String × RawRequest) (d : Directory) (response : Response)
    (d' : Directory) : Prop where
  asked : ∀ demand, Users.Asks mount request.2 demand →
    ∃ answer, d.Step demand answer d' ∧ response = answer.response mount request.1
  refused : (∀ demand, ¬Users.Asks mount request.2 demand) → d' = d ∧ 400 ≤ response.status

end ResourceApi

import ResourceApi.Registry.Basic

/-!
# Users

The one resource of the application: users with a name, kept in memory. Ids are made by the store, and an id is
never made twice as long as the supply of ids does not repeat itself. Users are listed by name and then by id, so
the listing depends on nothing but who is stored.
-/

namespace ResourceApi

/-- The stored users under their ids, and how many ids have been given out. -/
structure Users where
  stored : SortedMap Entity
  issued : Nat

namespace Users

/-- A store without users. -/
def empty : Users where
  stored := SortedMap.empty
  issued := 0

instance : Inhabited Users := ⟨empty⟩

/-- The schema of users. -/
def schema : Schema :=
  (Schema.ofNoun "User").scalar "username"

/-- Why the store turns a request down. -/
inductive Refusal where
  /-- There is no user of this id. -/
  | unknownUser
  /-- A new user has no name. -/
  | usernameRequired
  deriving DecidableEq, Repr

/-- A refusal in words. -/
def Refusal.fault : Refusal → Fault
  | unknownUser => .notFound "user not found"
  | usernameRequired => (Fault.validation "username is required").addField "username-required" "username"

/-- The name of a user; empty if it has none or if it is not a text. -/
def username (user : Entity) : String :=
  (user.text? "username").getD ""

/-- Whether a user is listed before another. -/
def listedBefore (a b : Entity) : Bool :=
  Text.before (username a) (username b) || (username a == username b && Text.before a.id b.id)

/-- Users in the order of their listing. -/
def listing (users : List Entity) : List Entity :=
  users.mergeSort fun a b => !listedBefore b a

/-- The number of users. -/
def size (users : Users) : Nat :=
  users.stored.size

/-- The stored users of a list of ids, in its order. -/
def select (users : Users) (ids : List String) : List Entity :=
  ids.filterMap users.stored.get?

/-- Store a user under the next id, which replaces any it came with. A user needs a name. -/
def create (mint : Nat → String) (user : Entity) : Action Users String := fun users =>
  if (username user).isEmpty then (.error Refusal.usernameRequired.fault, users)
  else
    let id := mint users.issued
    (.ok id, { stored := users.stored.insert id { user with id := id }, issued := users.issued + 1 })

/-- Set the given values of a stored user and keep the others. -/
def update (user : Entity) : Action Users Unit := fun users =>
  match users.stored.get? user.id with
  | some old => (.ok (), { users with stored := users.stored.insert user.id (old.merge user) })
  | none => (.error Refusal.unknownUser.fault, users)

/-- Remove a user. -/
def delete (id : String) : Action Users Unit := fun users =>
  if users.stored.contains id then (.ok (), { users with stored := users.stored.erase id })
  else (.error Refusal.unknownUser.fault, users)

/-- The user of an id. -/
def fetch (id : String) : Action Users Entity := fun users =>
  match users.stored.get? id with
  | some user => (.ok user, users)
  | none => (.error Refusal.unknownUser.fault, users)

/-- The store as a data source, with a supply of ids. It does not look at the request. -/
def source (mint : Nat → String) : Source Users where
  list _ := fun users => (.ok (listing users.stored.values), users)
  fetch id _ := fetch id
  fetchMany ids _ := fun users => (.ok (users.select ids), users)
  create := create mint
  update := update
  delete := delete

/-- The users as a resource. -/
def resource (mint : Nat → String) : Resource Users where
  schema := schema
  source := source mint

/-- The registry of the application. -/
def registry (mint : Nat → String) : Except DuplicateType (Registry Users) :=
  Registry.empty.register (resource mint)

end Users

end ResourceApi

import ResourceApi.Proofs.Registry.Steady

/-!
# Data sources over tables

The plainest data source keeps a list of entities that nobody changes. It finds by id and by the ids that entities keep
under the names of query parameters, and it takes no writes. Such a source is steady and faithful, and so is a registry of
such sources.
-/

namespace ResourceApi

variable {σ : Type}

/-- Whether an entity holds, under the name of each query parameter, the first value of it. -/
def Request.admits (request : Request) (entity : Entity) : Bool :=
  request.query.toList.all fun parameter => entity.text? parameter.1 == parameter.2.head?

/-- The entity of an id in a table. -/
def Source.seek (entities : List Entity) (id : String) : Except Fault Entity :=
  match entities.find? fun e => e.id == id with
  | some entity => .ok entity
  | none => .error (.notFound "missing")

/-- A data source over a list of entities. -/
def Source.ofTable (entities : List Entity) : Source σ where
  list request := .pure (entities.filter request.admits)
  fetch id _ := fun s => (seek entities id, s)
  fetchMany ids _ := .pure (ids.filterMap fun id => entities.find? fun e => e.id == id)
  create _ := .fail (.internal "read only")
  update _ := .fail (.internal "read only")
  delete _ := .fail (.internal "read only")

namespace Source

/-- A table replies the same in every state. -/
theorem steady_ofTable (entities : List Entity) : (Source.ofTable entities : Source σ).Steady where
  list _ _ _ := rfl
  fetch _ _ _ _ := rfl
  fetchMany _ _ _ _ := rfl

/-- What a table finds under an id has this id. -/
theorem faithful_ofTable (entities : List Entity) : (Source.ofTable entities : Source σ).Faithful := by
  intro id request s entity h
  change seek entities id = .ok entity at h
  unfold seek at h
  split at h
  · next found hfind =>
    obtain rfl : found = entity := Except.ok.inj h
    have hid := List.find?_some hfind
    exact eq_of_beq hid
  · cases h

end Source

namespace Registry

/-- A registry of tables. -/
def IsTables (registry : Registry σ) : Prop :=
  ∀ r ∈ registry.resources, ∃ entities, r.source = Source.ofTable entities

/-- A registry of tables replies the same in every state. -/
theorem IsTables.steady {registry : Registry σ} (h : registry.IsTables) : registry.Steady := by
  intro r hr
  obtain ⟨entities, heq⟩ := h r hr
  rw [heq]
  exact Source.steady_ofTable entities

/-- What a registry of tables finds under an id has this id. -/
theorem IsTables.faithful {registry : Registry σ} (h : registry.IsTables) : registry.Faithful := by
  intro r hr
  obtain ⟨entities, heq⟩ := h r hr
  rw [heq]
  exact Source.faithful_ofTable entities

end Registry

/-! ## A blog -/

namespace Blog

/-- Posts have an author, who is one of the users, and comments. -/
def posts : Schema where
  typeName := "posts"
  fields := [⟨"title", .scalar⟩, ⟨"author", .toOne "users" "authorID"⟩, ⟨"comments", .toMany "comments"⟩]

/-- Users have followers, who are users. -/
def users : Schema where
  typeName := "users"
  fields := [⟨"username", .nullable⟩, ⟨"followers", .toMany "users"⟩]

/-- Comments have a text. -/
def comments : Schema where
  typeName := "comments"
  fields := [⟨"text", .scalar⟩]

/-- A user who follows another one. -/
def user (id follows : String) : Entity :=
  (Entity.bare id).set "usersID" (.str follows)

/-- A post of an author. -/
def post (id author : String) : Entity :=
  (Entity.bare id).set "authorID" (.str author)

/-- A comment on a post. -/
def comment (id on : String) : Entity :=
  (Entity.bare id).set "postsID" (.str on)

/-- Two posts of one author, a comment on the first, and two users who follow each other. The posts may have a
controller. -/
def served (controller : Option (Controller σ)) : Registry σ where
  resources := [
    { schema := posts, source := .ofTable [post "1" "7", post "2" "7"], controller },
    { schema := users, source := .ofTable [user "7" "8", user "8" "7"] },
    { schema := comments, source := .ofTable [comment "5" "1"] }]
  distinct := (by decide : ["posts", "users", "comments"].Nodup)

/-- The blog without a controller. -/
def registry : Registry Unit :=
  served none

def firstPost : Record := ⟨posts, post "1" "7"⟩

def secondPost : Record := ⟨posts, post "2" "7"⟩

/-- The request for all posts. -/
def request : Request := Request.collection "posts"

/-- From where the posts are looked at. -/
def view : Viewpoint := registry.viewpoint "/v1" request

/-- A controller that shows only the first post, lets none be removed, and counts how often it decided so. -/
def guard : Controller Nat where
  list _ := fun n => (.ok (.replace [firstPost.entity]), n + 1)
  delete _ _ := fun n => (.error (.notFound "kept"), n + 1)

/-- A controller that counts how often the posts are listed. -/
def counter : Controller Nat where
  list _ := fun n => (.ok .proceed, n + 1)

/-- The blog is kept in tables, with or without a controller of the posts. -/
theorem isTables (controller : Option (Controller σ)) : (served controller).IsTables := by
  intro r hr
  simp only [served, List.mem_cons, List.not_mem_nil, or_false] at hr
  rcases hr with rfl | rfl | rfl <;> exact ⟨_, rfl⟩

end Blog

end ResourceApi

import ResourceApi.Proofs.Api.Rejections

/-!
# Methods that are said to apply

A response to OPTIONS lists the methods of the shape of a route (`Shape.methods`), and a method picks its operation by the number
of ids as well (`Operation.of`). The two tables agree wherever no more than one id is named. Where several are, PUT and DELETE
are listed as methods of the shape, and a write to a list is refused all the same (`advertised_iff_picked`,
`list_writes_advertised`).
-/

namespace ResourceApi

variable {σ : Type}

/-- A response says that a method applies: the method is one of those that stand between commas in the field for it. -/
def Response.Permits (r : Response) (method : Method) : Prop :=
  ∃ allow, r.headers.values "allow" = [Utf8.encode allow] ∧ method.name ∈ Text.split ',' allow

/-! ## The two tables -/

/-- The field lists the methods of the shape. -/
theorem Shape.mem_split_allow {shape : Shape} {method : Method} :
    method.name ∈ Text.split ',' shape.allow ↔ method ∈ shape.methods := by
  have parted : Text.Parted ',' shape.allow (shape.methods.map Method.name) := by
    cases shape <;> exact ⟨by decide, rfl, by decide⟩
  rw [Text.parted_iff.1 parted, List.mem_map]
  constructor
  · rintro ⟨⟨name⟩, among, rfl⟩
    exact among
  · exact fun among => ⟨method, among, rfl⟩

/-- A method of a shape picks an operation, unless it writes to a list. -/
theorem Operation.mem_methods_iff {shape : Shape} {method : Method} {count : Nat} (some : shape = .element → count ≠ 0) :
    method ∈ shape.methods ↔
      (∃ operation, Picks shape method count operation) ∨ WritesToList shape method count ∧ method ≠ .post := by
  constructor
  · intro among
    cases shape with
    | collection =>
      simp only [Shape.methods, List.mem_cons, List.not_mem_nil, or_false] at among
      rcases among with rfl | rfl | rfl
      · exact .inl ⟨_, .list count⟩
      · exact .inl ⟨_, .create count⟩
      · exact .inl ⟨_, .options _ count⟩
    | element =>
      simp only [Shape.methods, List.mem_cons, List.not_mem_nil, or_false] at among
      have many := some rfl
      by_cases one : count = 1
      · subst one
        rcases among with rfl | rfl | rfl | rfl
        · exact .inl ⟨_, .fetch⟩
        · exact .inl ⟨_, .update⟩
        · exact .inl ⟨_, .delete⟩
        · exact .inl ⟨_, .options _ 1⟩
      · have several : 2 ≤ count := by omega
        rcases among with rfl | rfl | rfl | rfl
        · exact .inl ⟨_, .fetchMany one⟩
        · exact .inr ⟨⟨rfl, several, .inl rfl⟩, by decide⟩
        · exact .inr ⟨⟨rfl, several, .inr (.inr rfl)⟩, by decide⟩
        · exact .inl ⟨_, .options _ count⟩
    | relation =>
      simp only [Shape.methods, List.mem_cons, List.not_mem_nil, or_false] at among
      rcases among with rfl | rfl
      · exact .inl ⟨_, .follow count⟩
      · exact .inl ⟨_, .options _ count⟩
  · rintro (⟨operation, picks⟩ | ⟨⟨rfl, -, write⟩, other⟩)
    · cases picks with
      | options => cases shape <;> decide
      | list | create | fetch | update | delete | fetchMany | follow => decide
    · rcases write with rfl | rfl | rfl
      · decide
      · exact absurd rfl other
      · decide

/-! ## Requests on one path -/

namespace Mount.Routes

variable {mount : Mount} {raw other : RawRequest} {shape shape' : Shape} {request request' : Request}

/-- The segments of a routed path are those of the mount point and the parts of the route. -/
theorem parts (h : mount.Routes raw shape request) :
    ∃ rest, Path.segments raw.target.path = mount.segments ++ rest ∧
      parts? rest = some (shape, request.resource, request.ids, request.relation) := by
  cases h with
  | collection names => exact ⟨_, names.path, rfl⟩
  | element names some => exact ⟨_, names.path, parts?_element some⟩
  | relation names one => exact ⟨_, names.path, parts?_relation one⟩

/-- Whatever else differs, requests on one path lead to the same. -/
theorem alike (h : mount.Routes raw shape request) (h' : mount.Routes other shape' request')
    (same : other.target.path = raw.target.path) : shape' = shape ∧ request'.ids = request.ids := by
  obtain ⟨rest, path, parts⟩ := h.parts
  obtain ⟨rest', path', parts'⟩ := h'.parts
  rw [same, path] at path'
  obtain rfl := List.append_cancel_left path'
  rw [parts] at parts'
  obtain ⟨rfl, -, ids, -⟩ : shape = shape' ∧ _ ∧ request.ids = request'.ids ∧ _ := by simpa using parts'
  exact ⟨rfl, ids.symm⟩

end Mount.Routes

/-! ## What is advertised -/

/-- The response to OPTIONS says that the methods of the shape apply. -/
theorem Registry.permits_iff (registry : Registry σ) (mount : Mount) (requestId : String) {raw : RawRequest} {shape : Shape}
    {request : Request} (routes : mount.Routes raw shape request) (options : raw.method = .options) {r : Resource σ}
    (served : registry.lookup? request.resource = some r) (s : σ) {method : Method} :
    (((registry.api mount).respond requestId raw).run registry.backend s).value.Permits method ↔ method ∈ shape.methods := by
  rw [registry.run_respond_of_options mount requestId routes served options s, ← Shape.mem_split_allow]
  unfold Response.Permits
  rw [Response.allow_permitted]
  constructor
  · rintro ⟨allow, told, among⟩
    obtain rfl : shape.allow = allow := Utf8.encode_injective (List.cons.inj told).1
    exact among
  · exact fun among => ⟨shape.allow, rfl, among⟩

/-- The response to OPTIONS on a path of a type that is served says that a method applies if and only if the method picks an
operation on this path, except that on a path with several ids it says so of PUT and DELETE as well. These are methods of the
shape, but a write to a list is refused as a failure of the server. -/
theorem advertised_iff_picked (registry : Registry σ) (mount : Mount) (requestId : String) {asked : RawRequest} {shape : Shape}
    {request : Request} (routes : mount.Routes asked shape request) (options : asked.method = .options) {r : Resource σ}
    (served : registry.lookup? request.resource = some r) (s : σ) :
    let response := (((registry.api mount).respond requestId asked).run registry.backend s).value
    ∀ other shape' request', mount.Routes other shape' request' → other.target.path = asked.target.path →
      let picked := Operation.of shape' request'.method request'.ids.length
      let writesToList := Operation.WritesToList shape' other.method request'.ids.length
      (response.Permits other.method ↔ (∃ operation, picked = .ok operation) ∨ writesToList ∧ other.method ≠ .post) ∧
        (writesToList → ∃ reason, picked = .error reason ∧ reason.fault.kind = .internal) := by
  intro response other shape' request' routes' same picked writesToList
  obtain ⟨rfl, ids⟩ := routes.alike routes' same
  have some : shape' = .element → request'.ids.length ≠ 0 := by
    rintro rfl
    simpa using routes'.ids_ne_nil
  have picks : (∃ operation, picked = .ok operation) ↔
      ∃ operation, Operation.Picks shape' other.method request'.ids.length operation := by
    rw [← routes'.method]
    exact exists_congr fun operation => Operation.of_eq_ok_iff
  constructor
  · rw [picks, ← Operation.mem_methods_iff some]
    exact registry.permits_iff mount requestId routes options served s
  · intro list
    have write : Operation.WritesToList shape' request'.method request'.ids.length := routes'.method ▸ list
    exact ⟨_, Operation.of_of_writesToList write, rfl⟩

namespace Blog

/-- A request on the path of some posts, which names two of them. -/
def onPosts (method : Method) : RawRequest :=
  .plain method "/posts/1,2" ""

/-- Whatever the method, the path leads to the two posts. -/
theorem routes_onPosts (method : Method) :
    Mount.root.Routes (onPosts method) .element ((onPosts method).routed [] "posts" ["1", "2"] none) := by
  have path : Path.segments "/posts/1,2" = ["posts", "1,2"] := by decide +kernel
  have ids : Mount.idsOf "1,2" = ["1", "2"] := by decide
  rw [← ids]
  exact .element ⟨rfl, path⟩ (ids ▸ List.cons_ne_nil _ _)

theorem lookup?_posts : registry.lookup? "posts" = some ⟨posts, .ofTable [post "1" "7", post "2" "7"], none⟩ := rfl

end Blog

/-- Of two posts it is said that they can be read, which is so, and not that POST applies to them or PATCH. -/
theorem blog_methods_advertised :
    let response := (((Blog.registry.api .root).respond "7" (Blog.onPosts .options)).run Blog.registry.backend ()).value
    Operation.of .element .get 2 = .ok .fetchMany ∧ response.Permits .get ∧
      Operation.of .element .post 2 = .error (.writeToList .post 2) ∧ ¬response.Permits .post ∧
      ¬response.Permits ⟨"PATCH"⟩ := by
  intro response
  have advertised (method : Method) := (advertised_iff_picked Blog.registry .root "7" (Blog.routes_onPosts .options) rfl
    Blog.lookup?_posts () _ _ _ (Blog.routes_onPosts method) rfl).1
  refine ⟨rfl, (advertised .get).2 (.inl ⟨.fetchMany, rfl⟩), rfl, fun permits => ?_, fun permits => ?_⟩
  · rcases (advertised .post).1 permits with ⟨operation, picked⟩ | ⟨-, other⟩
    · cases picked
    · exact other rfl
  · rcases (advertised ⟨"PATCH"⟩).1 permits with ⟨operation, picked⟩ | ⟨⟨-, -, write⟩, -⟩
    · cases picked
    · revert write
      decide

/-- Of two posts it is also said that PUT and DELETE apply to them, and neither picks an operation. -/
theorem list_writes_advertised :
    let response := (((Blog.registry.api .root).respond "7" (Blog.onPosts .options)).run Blog.registry.backend ()).value
    ∀ method ∈ [Method.put, .delete], ∃ request, Mount.root.Routes (Blog.onPosts method) .element request ∧
      ¬(response.Permits method ↔ ∃ operation, Operation.of .element request.method request.ids.length = .ok operation) := by
  intro response method among
  have write : method = .put ∨ method = .delete := by simpa using among
  have shaped : method ∈ Shape.element.methods := by rcases write with rfl | rfl <;> decide
  have permits : response.Permits method :=
    (Blog.registry.permits_iff .root "7" (Blog.routes_onPosts .options) rfl Blog.lookup?_posts ()).2 shaped
  refine ⟨_, Blog.routes_onPosts method, fun agree => ?_⟩
  obtain ⟨operation, picked⟩ := agree.1 permits
  rcases write with rfl | rfl <;> cases picked

end ResourceApi

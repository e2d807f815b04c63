import Mathlib.Data.List.Induction
import ResourceApi.Proofs.Data.SortedMap
import ResourceApi.Proofs.Registry.Table

/-!
# Registering resources

Resources are registered one after another, and those of which the type name is taken are refused. Whatever is tried, the first
resource of a type stays: a later one changes nothing (`Registry.attempt_of_taken`), and what is found under a type name is the
first resource that was tried under it (`Registry.lookup?_attempted`).
-/

namespace ResourceApi

variable {σ : Type}

namespace Registry

/-! ## One attempt -/

/-- A type name is taken by a resource that has it. -/
theorem isTaken_iff (registry : Registry σ) (type : String) :
    registry.isTaken type = true ↔ ∃ r ∈ registry.resources, r.typeName = type := by
  rw [isTaken, List.contains_iff_mem, List.mem_map]

/-- A type name is taken if and only if something is found under it. -/
theorem isSome_lookup?_iff (registry : Registry σ) (type : String) :
    (registry.lookup? type).isSome = true ↔ registry.isTaken type = true := by
  rw [isTaken_iff, lookup?, List.find?_isSome]
  simp

/-- An attempt on a type name that is taken is refused, and changes nothing. -/
theorem attempt_of_taken {registry : Registry σ} {r : Resource σ} (taken : registry.isTaken r.typeName = true) :
    registry.attempt r = (.error ⟨r.typeName⟩, registry) := by
  rw [attempt, dif_pos taken]

/-- An attempt on a type name that is free succeeds, and adds the resource behind the others. -/
theorem attempt_of_free {registry : Registry σ} {r : Resource σ} (free : ¬registry.isTaken r.typeName = true) :
    (registry.attempt r).1 = .ok () ∧ (registry.attempt r).2.resources = registry.resources ++ [r] := by
  rw [attempt, dif_neg free]
  exact ⟨rfl, rfl⟩

/-- Only a type name that is taken is a reason to refuse an attempt, and it is the one that is told. -/
theorem attempt_eq_error_iff {registry : Registry σ} {r : Resource σ} {refusal : DuplicateType} :
    (registry.attempt r).1 = .error refusal ↔ registry.isTaken r.typeName = true ∧ refusal = ⟨r.typeName⟩ := by
  by_cases taken : registry.isTaken r.typeName = true
  · simp [attempt_of_taken taken, taken, eq_comm]
  · simp [(attempt_of_free taken).1, taken]

/-- To register a resource is refused as the attempt is. -/
theorem register_eq_error_iff {registry : Registry σ} {r : Resource σ} {refusal : DuplicateType} :
    registry.register r = .error refusal ↔ registry.isTaken r.typeName = true ∧ refusal = ⟨r.typeName⟩ := by
  rw [← attempt_eq_error_iff, register]
  rcases registry.attempt r with ⟨_ | _, _⟩ <;> simp

/-- What was found before is found still, and what was not may be the resource that is tried. -/
theorem lookup?_attempt (registry : Registry σ) (r : Resource σ) (type : String) :
    (registry.attempt r).2.lookup? type = (registry.lookup? type).or (if r.typeName = type then some r else none) := by
  by_cases taken : registry.isTaken r.typeName = true
  · rw [attempt_of_taken taken]
    -- Nothing is added, so what was found under the type name has to stand before the resource that is tried.
    obtain ⟨own, found⟩ := Option.isSome_iff_exists.1 ((registry.isSome_lookup?_iff _).2 taken)
    by_cases same : r.typeName = type
    · rw [← same, found, Option.some_or]
    · rw [if_neg same, Option.or_none]
  · rw [lookup?, (attempt_of_free taken).2, List.find?_append]
    by_cases same : r.typeName = type <;> simp [lookup?, same]

/-! ## One attempt after another -/

/-- The registry that some attempts leave, at first without resources. -/
def attempted (attempts : List (Resource σ)) : Registry σ :=
  attempts.foldl (fun registry r => (registry.attempt r).2) empty

/-- The last attempt is made on the registry that the others leave. -/
theorem attempted_concat (attempts : List (Resource σ)) (r : Resource σ) :
    attempted (attempts ++ [r]) = ((attempted attempts).attempt r).2 := by
  simp [attempted]

/-- An attempt that changed nothing when it was made can be left out, whatever is tried after it. -/
theorem attempted_append_cons {attempts : List (Resource σ)} {r : Resource σ}
    (unchanged : ((attempted attempts).attempt r).2 = attempted attempts) (later : List (Resource σ)) :
    attempted (attempts ++ r :: later) = attempted (attempts ++ later) := by
  unfold attempted at unchanged ⊢
  rw [List.foldl_append, List.foldl_cons, unchanged, List.foldl_append]

/-- Under a type name the first resource is found that was tried under it. -/
theorem lookup?_attempted (attempts : List (Resource σ)) (type : String) :
    (attempted attempts).lookup? type = attempts.find? fun r => r.typeName == type := by
  -- The induction goes from the last attempt back, since each is made on the registry that those before it leave.
  induction attempts using List.reverseRecOn with
  | nil => rfl
  | append_singleton attempts r ih =>
    rw [attempted_concat, lookup?_attempt, ih, List.find?_append]
    by_cases same : r.typeName = type <;> simp [same]

/-- Something is found under the type names that were tried, and under no others. -/
theorem isSome_lookup?_attempted (attempts : List (Resource σ)) (type : String) :
    ((attempted attempts).lookup? type).isSome = true ↔ type ∈ attempts.map Resource.typeName := by
  rw [lookup?_attempted, List.find?_isSome]
  simp

/-! ## What is told of a registry -/

/-- The type names are those of the resources, in another order. -/
theorem perm_typeNames (registry : Registry σ) : registry.typeNames.Perm (registry.resources.map Resource.typeName) := by
  let entries := registry.resources.map fun r => (r.typeName, ())
  have names : entries.map Prod.fst = registry.resources.map Resource.typeName := by simp [entries]
  have distinct : (entries.map Prod.fst).Nodup := names ▸ registry.distinct
  exact names ▸ SortedMap.perm_names_ofList distinct

/-- A type name is listed if something is found under it. -/
theorem mem_typeNames_iff (registry : Registry σ) (type : String) :
    type ∈ registry.typeNames ↔ (registry.lookup? type).isSome = true := by
  rw [registry.perm_typeNames.mem_iff, isSome_lookup?_iff, isTaken, List.contains_iff_mem]

/-- Type names are listed in increasing order, and so none of them twice. -/
theorem pairwise_typeNames (registry : Registry σ) :
    registry.typeNames.Pairwise fun a b => Text.before a b = true :=
  List.pairwise_map.2 (SortedMap.sorted _)

/-- As many type names are listed as there are resources. -/
theorem length_typeNames (registry : Registry σ) : registry.typeNames.length = registry.size := by
  rw [registry.perm_typeNames.length_eq, List.length_map]
  rfl

end Registry

/-- Of the resources that are tried one after another, the first of each type is the one that is registered. One more attempt is
refused, as a duplicate of its type, if and only if its type was tried before, and then it leaves the registry as it is, so that
all that is tried later comes to what it would without it. What is found under a type name is the first resource that was tried
under it, with its schema, its data source and its controller if it has one. The types that were tried are listed once each, in
increasing order, and are counted so. -/
theorem first_registrations_stand (attempts : List (Resource σ)) :
    let registry := Registry.attempted attempts
    let types := attempts.map Resource.typeName
    (∀ r refusal, (registry.attempt r).1 = .error refusal ↔ r.typeName ∈ types ∧ refusal = ⟨r.typeName⟩) ∧
      (∀ r refusal, (registry.attempt r).1 = .error refusal → (registry.attempt r).2 = registry ∧
        ∀ later, Registry.attempted (attempts ++ r :: later) = Registry.attempted (attempts ++ later)) ∧
      (∀ type r, registry.lookup? type = some r ↔ r.schema.typeName = type ∧
        ∃ earlier later, attempts = earlier ++ r :: later ∧ type ∉ earlier.map Resource.typeName) ∧
      (∀ type, (registry.lookup? type).isSome = true ↔ type ∈ types) ∧
      registry.typeNames.Pairwise (fun a b => Text.before a b = true) ∧
      (∀ type, type ∈ registry.typeNames ↔ type ∈ types) ∧
      registry.size = registry.typeNames.length ∧ registry.isEmpty = registry.typeNames.isEmpty := by
  intro registry types
  have found (type : String) : (registry.lookup? type).isSome = true ↔ type ∈ types :=
    Registry.isSome_lookup?_attempted attempts type
  have refused (r : Resource σ) (refusal : DuplicateType) :
      (registry.attempt r).1 = .error refusal ↔ registry.isTaken r.typeName = true ∧ refusal = ⟨r.typeName⟩ :=
    Registry.attempt_eq_error_iff
  refine ⟨fun r refusal => ?_, fun r refusal failed => ?_, fun type r => ?_, found, registry.pairwise_typeNames,
    fun type => (registry.mem_typeNames_iff type).trans (found type), registry.length_typeNames.symm, ?_⟩
  · rw [refused, ← registry.isSome_lookup?_iff, found]
  · have unchanged : (registry.attempt r).2 = registry := by
      rw [Registry.attempt_of_taken ((refused r refusal).1 failed).1]
    exact ⟨unchanged, Registry.attempted_append_cons unchanged⟩
  · rw [Registry.lookup?_attempted, List.find?_eq_some_iff_append]
    simp [Resource.typeName, Offering.typeName, Resource.offering]
  · rw [Bool.eq_iff_iff, List.isEmpty_iff_length_eq_zero, registry.length_typeNames]
    simp [Registry.isEmpty, Registry.size]

namespace Blog

/-- The posts and the users are registered. Then the posts are tried again, from other tables and with a controller. -/
def attempts : List (Resource Nat) := [
  { schema := users, source := .ofTable [user "7" "8"], controller := some {} },
  { schema := posts, source := .ofTable [post "1" "7"] },
  { schema := .named "posts", source := .ofTable [], controller := some guard }]

/-- The posts once more. -/
def again : Resource Nat where
  schema := .ofNoun "Post"
  source := .ofTable [post "2" "7"]

end Blog

/-- Neither attempt takes the place of the posts that were registered first. -/
theorem blog_registrations_stand :
    let registry := Registry.attempted Blog.attempts
    (registry.attempt Blog.again).1 = .error ⟨"posts"⟩ ∧ (registry.attempt Blog.again).2 = registry ∧
      registry.lookup? "posts" = some { schema := Blog.posts, source := .ofTable [Blog.post "1" "7"] } ∧
      registry.typeNames = ["posts", "users"] ∧ registry.size = 2 := by
  intro registry
  obtain ⟨refused, unchanged, found, -, -, -, counted, -⟩ := first_registrations_stand Blog.attempts
  have failed : (registry.attempt Blog.again).1 = .error ⟨"posts"⟩ :=
    (refused Blog.again _).2 (by decide +kernel)
  have names : registry.typeNames = ["posts", "users"] := by decide +kernel
  refine ⟨failed, (unchanged Blog.again _ failed).1, (found "posts" _).2 ⟨rfl, ?_⟩, names, counted.trans (by rw [names]; rfl)⟩
  exact ⟨[_], [_], rfl, by decide⟩

end ResourceApi

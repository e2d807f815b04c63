import ResourceApi.Proofs.Plan.Acting
import ResourceApi.Proofs.Registry.Steady

/-!
# Registries whose reads change nothing

A registry is still if its data sources leave the state as it is when they are read. What they reply may depend on the state,
but as long as a plan only reads it stays in one state, and comes to what the replies in that state lead to
(`Registry.Still.act`).
-/

namespace ResourceApi

variable {σ α : Type}

/-- Reading a data source leaves the state as it is. -/
structure Source.Still (source : Source σ) : Prop where
  list : ∀ request s, (source.list request s).2 = s
  fetch : ∀ id request s, (source.fetch id request s).2 = s
  fetchMany : ∀ ids request s, (source.fetchMany ids request s).2 = s

/-- A run leaves the state as it is if every call of it does, and comes to what the replies in this state lead to. -/
theorem Plan.run_of_still {backend : Backend σ} {kind : Call → Prop}
    (still : ∀ call, kind call → ∀ s, (backend call s).2 = s) {p : Plan α} (within : p.Within kind) (s : σ) :
    (p.run backend s).value = p.comesTo (backend.repliesAt s) ∧ (p.run backend s).state = s := by
  induction p with
  | done value => exact ⟨rfl, rfl⟩
  | ask call next ih =>
    have stays : (backend call s).2 = s := still call within.1 s
    obtain ⟨value, state⟩ := ih (backend call s).1 (within.2 _)
    simp only [run, comesTo, stays]
    exact ⟨value, state⟩

namespace Registry

/-- Reading any data source leaves the state as it is. -/
def Still (registry : Registry σ) : Prop :=
  ∀ r ∈ registry.resources, r.source.Still

variable {registry : Registry σ} (still : registry.Still)

include still

/-- A call that reads leaves the state as it is, whether or not its type is served. -/
theorem Still.state (call : Call) (reads : call.Reads) (s : σ) : (registry.backend call s).2 = s := by
  cases h : registry.lookup? call.type with
  | none =>
    rw [backend_of_none call h]
    rfl
  | some r =>
    rw [backend_of_some call h]
    have source := still r (mem_of_lookup? h)
    cases call with
    | list type request => exact source.list request s
    | fetch type id request => exact source.fetch id request s
    | fetchMany type ids request => exact source.fetchMany ids request s
    | create | update | delete | consult => exact reads.elim

/-- A plan that only reads does nothing to the state, and comes to what the replies in it lead to. -/
theorem Still.act {p : Engine α} (reads : p.run.Within Call.Reads) (s : σ) :
    p.act registry.backend s = (p.run.comesTo (registry.backend.repliesAt s), s) := by
  obtain ⟨value, state⟩ := Plan.run_of_still still.state reads s
  exact Prod.ext value state

end Registry

end ResourceApi

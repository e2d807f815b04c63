import ResourceApi.Proofs.Plan.Parallel
import ResourceApi.Registry.Source

/-!
# What plans do to a state

Against a backend a plan that may end in a fault does something to a state, just as a single call does (`Engine.act`). What
follows on it is done to the state that it leaves, unless it ended in a fault (`Engine.act_bind`). So what a plan does is
put together from what its calls do.
-/

namespace ResourceApi.Engine

variable {σ α β : Type} (backend : Backend σ)

/-- What a plan does to a state when a backend answers its calls. -/
def act (p : Engine α) : Action σ α :=
  fun s => ((p.run.run backend s).value, (p.run.run backend s).state)

/-- A call does to a state what the backend does. -/
theorem act_call (c : Call) : (Engine.call c).act backend = backend c := rfl

/-- What follows on a plan is done to the state that it leaves, unless the plan ends in a fault. -/
theorem act_bind (p : Engine α) (f : α → Engine β) (s : σ) :
    (p >>= f).act backend s =
      match p.act backend s with
      | (.ok a, s) => (f a).act backend s
      | (.error fault, s) => (.error fault, s) := by
  rw [act, ExceptT.run_bind]
  refine (congrArg (fun run : Run σ (Except Fault β) => (run.value, run.state)) (Plan.run_bind backend p.run _ s)).trans ?_
  unfold act
  obtain ⟨result, exchanges, t⟩ := p.run.run backend s
  cases result <;> rfl

/-- What follows on a plan that comes to a value is done to the state that the plan leaves. -/
theorem act_bind_ok {p : Engine α} {a : α} {s t : σ} (h : p.act backend s = (.ok a, t)) (f : α → Engine β) :
    (p >>= f).act backend s = (f a).act backend t := by
  rw [act_bind, h]

/-- What follows on a plan that ends in a fault is not done. -/
theorem act_bind_error {p : Engine α} {fault : Fault} {s t : σ} (h : p.act backend s = (.error fault, t))
    (f : α → Engine β) : (p >>= f).act backend s = (.error fault, t) := by
  rw [act_bind, h]

/-- A plan that came to a value has done so after what it begins with came to one. -/
theorem act_bind_eq_ok {p : Engine α} {f : α → Engine β} {s s' : σ} {b : β}
    (h : (p >>= f).act backend s = (.ok b, s')) :
    ∃ a t, p.act backend s = (.ok a, t) ∧ (f a).act backend t = (.ok b, s') := by
  rw [act_bind] at h
  split at h
  · next a t first => exact ⟨a, t, first, h⟩
  · next fault t first => cases h

/-- A plan that cannot end in a fault comes to its value, and what follows is done to the state that it leaves. -/
theorem act_lift_bind (p : Plan α) (f : α → Engine β) (s : σ) :
    (liftM p >>= f : Engine β).act backend s = (f (p.run backend s).value).act backend (p.run backend s).state := by
  unfold act
  rw [run_lift_bind]
  have joined : (p >>= fun a => (f a).run).run backend s = _ := Plan.run_bind backend p _ s
  rw [joined]

end ResourceApi.Engine

import ResourceApi.Plan.Basic

/-!
# What plans come to

A plan looks at nothing but the replies to its calls. When each call has one reply, whatever the state, a plan comes to
one value (`Plan.comesTo`) by one list of calls (`Plan.asks`), and both go through plans that are put together as a
function goes through its parts. `Plan.Within` says that a plan keeps to calls of a kind whatever the replies are;
`run_value_eq` joins the two: a run against a backend that gives those replies comes to that value.
-/

namespace ResourceApi

/-- One reply for each call. -/
abbrev Replies : Type :=
  (call : Call) → call.Reply

/-- The replies of a backend in a state. -/
def Backend.repliesAt {σ : Type} (backend : Backend σ) (s : σ) : Replies :=
  fun call => (backend call s).1

/-- The calls of a run, in order. -/
def Run.calls {σ α : Type} (run : Run σ α) : List Call :=
  run.exchanges.map Exchange.call

namespace Plan

variable {α β : Type}

/-- The value of a plan when each call gets its one reply. -/
def comesTo (replies : Replies) : Plan α → α
  | done value => value
  | ask call next => (next (replies call)).comesTo replies

/-- The calls of a plan when each call gets its one reply. -/
def asks (replies : Replies) : Plan α → List Call
  | done _ => []
  | ask call next => call :: (next (replies call)).asks replies

/-- Whatever the replies are, a plan makes only calls of a kind. -/
def Within (kind : Call → Prop) : Plan α → Prop
  | done _ => True
  | ask call next => kind call ∧ ∀ reply, (next reply).Within kind

/-! ## Values and calls of plans that are put together -/

section Replies

variable (replies : Replies)

@[simp] theorem comesTo_pure (value : α) : (pure value : Plan α).comesTo replies = value := rfl

/-- What follows on a plan goes on from the value that it comes to. -/
@[simp] theorem comesTo_bind (p : Plan α) (f : α → Plan β) :
    (p >>= f).comesTo replies = (f (p.comesTo replies)).comesTo replies := by
  induction p with
  | done value => rfl
  | ask call next ih => exact ih (replies call)

@[simp] theorem comesTo_map (f : α → β) (p : Plan α) : (f <$> p).comesTo replies = f (p.comesTo replies) := by
  rw [map_eq_pure_bind, comesTo_bind, comesTo_pure]

/-- What is done for each item of a list comes to what it comes to for each item, in order. -/
@[simp] theorem comesTo_forEach (f : α → Plan β) (items : List α) :
    (forEach f items).comesTo replies = items.map fun a => (f a).comesTo replies := by
  induction items with
  | nil => rfl
  | cons a rest ih =>
    change ((f a) >>= fun b => (forEach f rest) >>= fun more => pure (b :: more)).comesTo replies = _
    simp only [comesTo_bind, comesTo_pure, ih, List.map_cons]

end Replies

/-! ## Plans that keep to calls of a kind -/

section Within

variable {kind : Call → Prop}

theorem within_pure (value : α) : (pure value : Plan α).Within kind := trivial

/-- Plans that are put together keep to calls of a kind if their parts do. -/
theorem Within.bind {p : Plan α} {f : α → Plan β} (hp : p.Within kind) (hf : ∀ a, (f a).Within kind) :
    (p >>= f).Within kind := by
  induction p with
  | done value => exact hf value
  | ask call next ih => exact ⟨hp.1, fun reply => ih reply (hp.2 reply)⟩

/-- What is made of a value makes no calls. -/
theorem Within.map {p : Plan α} (f : α → β) (hp : p.Within kind) : (f <$> p).Within kind := by
  rw [map_eq_pure_bind]
  exact hp.bind fun _ => within_pure _

/-- What is done for each item of a list keeps to calls of a kind if it does so for every item. -/
theorem Within.forEach {f : α → Plan β} {items : List α} (hf : ∀ a ∈ items, (f a).Within kind) :
    (forEach f items).Within kind := by
  induction items with
  | nil => trivial
  | cons a rest ih =>
    refine (hf a List.mem_cons_self).bind fun b => ?_
    exact (ih fun a' h => hf a' (List.mem_cons_of_mem _ h)).bind fun _ => within_pure _

/-- A plan that keeps to calls of a kind keeps to those of a wider one. -/
theorem Within.mono {wider : Call → Prop} (h : ∀ call, kind call → wider call) {p : Plan α} (hp : p.Within kind) :
    p.Within wider := by
  induction p with
  | done => trivial
  | ask call next ih => exact ⟨h call hp.1, fun reply => ih reply (hp.2 reply)⟩

end Within

/-! ## Runs -/

section Run

variable {σ : Type} {backend : Backend σ} {kind : Call → Prop}

/-- Every call of a run is one that the plan may make. -/
theorem Within.of_mem_exchanges {p : Plan α} (hp : p.Within kind) (s : σ) :
    ∀ e ∈ (p.run backend s).exchanges, kind e.call := by
  induction p generalizing s with
  | done => simp [run]
  | ask call next ih =>
    intro e he
    rcases List.mem_cons.1 he with rfl | he
    · exact hp.1
    · exact ih _ (hp.2 _) _ e he

/-- A run comes to the value that the replies lead to, if the backend gives these replies in every state. -/
theorem run_value_eq {replies : Replies} (steady : ∀ call, kind call → ∀ s, (backend call s).1 = replies call)
    {p : Plan α} (hp : p.Within kind) (s : σ) : (p.run backend s).value = p.comesTo replies := by
  induction p generalizing s with
  | done => rfl
  | ask call next ih =>
    have hreply : (backend call s).1 = replies call := steady call hp.1 s
    simp only [run, comesTo, ← hreply]
    exact ih _ (hp.2 _) _

end Run

end Plan

/-! ## Plans that may end in a fault -/

namespace Engine

variable {α β : Type} (replies : Replies)

/-- A plan goes on from the value that its first part comes to, and ends in its fault. -/
theorem comesTo_run_bind (p : Engine α) (f : α → Engine β) :
    (p >>= f).run.comesTo replies =
      match p.run.comesTo replies with
      | .ok a => (f a).run.comesTo replies
      | .error fault => .error fault := by
  rw [ExceptT.run_bind, Plan.comesTo_bind]
  cases p.run.comesTo replies <;> rfl

end Engine

end ResourceApi

import ResourceApi.Proofs.Plan.Replies

/-!
# Comparing runs

Two backends that answer calls of a kind alike run a plan that keeps to this kind alike, up to states that make no
difference to them (`Plan.run_alike`). What a plan would do after replies that it did not get in any run is told by
`Plan.Resumes`: after these exchanges it goes on as another plan.
-/

namespace ResourceApi

variable {σ τ α β : Type}

/-- A run that began with an exchange. -/
def Run.after (first : Exchange) (rest : Run σ α) : Run σ α where
  value := rest.value
  exchanges := first :: rest.exchanges
  state := rest.state

/-- To calls of a kind two backends give the same replies from states that make no difference, and leave such states. -/
def Backend.Alike (kind : Call → Prop) (same : σ → τ → Prop) (backend : Backend σ) (other : Backend τ) : Prop :=
  ∀ call, kind call → ∀ s t, same s t →
    (backend call s).1 = (other call t).1 ∧ same (backend call s).2 (other call t).2

namespace Plan

/-- Asking is one exchange before the run of the rest. -/
theorem run_ask (backend : Backend σ) (call : Call) (next : call.Reply → Plan α) (s : σ) :
    (ask call next).run backend s =
      ((next (backend call s).1).run backend (backend call s).2).after ⟨call, (backend call s).1⟩ :=
  rfl

/-- What follows on a plan goes on from the value and the state that the plan has come to. -/
theorem run_bind_of {backend : Backend σ} {p : Plan α} {s : σ} {first : Run σ α} (h : p.run backend s = first)
    (f : α → Plan β) :
    (p >>= f).run backend s =
      let rest := (f first.value).run backend first.state
      ⟨rest.value, first.exchanges ++ rest.exchanges, rest.state⟩ := by
  subst h
  exact run_bind backend p f s

/-! ## Backends that answer alike -/

/-- Backends that answer alike lead a plan to one value by one list of exchanges. -/
theorem run_alike {kind : Call → Prop} {same : σ → τ → Prop} {backend : Backend σ} {other : Backend τ}
    (alike : backend.Alike kind same other) {p : Plan α} (hp : p.Within kind) {s : σ} {t : τ} (hs : same s t) :
    (p.run backend s).value = (p.run other t).value ∧
      (p.run backend s).exchanges = (p.run other t).exchanges ∧
      same (p.run backend s).state (p.run other t).state := by
  induction p generalizing s t with
  | done value => exact ⟨rfl, rfl, hs⟩
  | ask call next ih =>
    obtain ⟨hreply, hstate⟩ := alike call hp.1 s t hs
    obtain ⟨hvalue, hexchanges, hend⟩ := ih (backend call s).1 (hp.2 _) hstate
    simp only [run_ask, Run.after, ← hreply]
    exact ⟨hvalue, congrArg (_ :: ·) hexchanges, hend⟩

/-- A plan runs the same against backends that agree on the calls it may make. -/
theorem run_congr {kind : Call → Prop} {backend other : Backend σ} (agree : ∀ call, kind call → backend call = other call)
    {p : Plan α} (hp : p.Within kind) (s : σ) : p.run backend s = p.run other s := by
  have alike : backend.Alike kind Eq other := by
    rintro call hcall s t rfl
    rw [agree call hcall]
    exact ⟨rfl, rfl⟩
  obtain ⟨hvalue, hexchanges, hstate⟩ := run_alike alike hp (rfl : s = s)
  cases h : p.run backend s
  cases h' : p.run other s
  rw [h, h'] at hvalue hexchanges hstate
  cases hvalue
  cases hexchanges
  cases hstate
  rfl

/-! ## Plans after some exchanges -/

/-- After some exchanges a plan goes on as another one. The replies may be any, whether a backend gives them or not. -/
inductive Resumes : Plan α → List Exchange → Plan α → Prop
  | here (p : Plan α) : Resumes p [] p
  | there {call : Call} {next : call.Reply → Plan α} (reply : call.Reply) {exchanges : List Exchange} {rest : Plan α}
    (h : Resumes (next reply) exchanges rest) : Resumes (ask call next) (⟨call, reply⟩ :: exchanges) rest

/-- Exchanges after exchanges lead from plan to plan. -/
theorem Resumes.trans {p q rest : Plan α} {first more : List Exchange} (h : p.Resumes first q)
    (h' : q.Resumes more rest) : p.Resumes (first ++ more) rest := by
  induction h with
  | here p => exact h'
  | there reply _ ih => exact .there reply (ih h')

/-- What follows on a plan follows on what it resumes as. -/
theorem Resumes.bind {p rest : Plan α} {exchanges : List Exchange} (h : p.Resumes exchanges rest) (f : α → Plan β) :
    (p >>= f).Resumes exchanges (rest >>= f) := by
  induction h with
  | here p => exact .here _
  | there reply _ ih => exact .there reply ih

/-- What follows on a plan begins where the plan has come to a value. -/
theorem Resumes.of_bind {p : Plan α} {f : α → Plan β} {exchanges : List Exchange} {value : β}
    (h : (p >>= f).Resumes exchanges (done value)) :
    ∃ first a rest, exchanges = first ++ rest ∧ p.Resumes first (done a) ∧ (f a).Resumes rest (done value) := by
  induction p generalizing exchanges with
  | done a => exact ⟨[], a, exchanges, rfl, .here _, h⟩
  | ask call next ih =>
    cases h with
    | there reply h =>
      obtain ⟨first, a, rest, rfl, hp, hf⟩ := ih reply h
      exact ⟨_ :: first, a, rest, rfl, .there reply hp, hf⟩

/-- Whatever the replies were, the calls are those that the plan keeps to. -/
theorem Resumes.within {kind : Call → Prop} {p rest : Plan α} {exchanges : List Exchange} (h : p.Resumes exchanges rest)
    (hp : p.Within kind) : ∀ e ∈ exchanges, kind e.call := by
  induction h with
  | here p => exact List.forall_mem_nil _
  | there reply _ ih => exact List.forall_mem_cons.2 ⟨hp.1, ih (hp.2 reply)⟩

/-- A run comes to its value by its exchanges. -/
theorem resumes_run (backend : Backend σ) (p : Plan α) (s : σ) :
    p.Resumes (p.run backend s).exchanges (done (p.run backend s).value) := by
  induction p generalizing s with
  | done value => exact .here _
  | ask call next ih => exact .there _ (ih _ _)

/-- What is made of a value leaves the exchanges and the state as they are. -/
theorem run_map (backend : Backend σ) (f : α → β) (p : Plan α) (s : σ) :
    (f <$> p).run backend s = ⟨f (p.run backend s).value, (p.run backend s).exchanges, (p.run backend s).state⟩ := by
  rw [map_eq_pure_bind]
  refine (run_bind backend p (fun a => pure (f a)) s).trans ?_
  simp [run, pure]

end Plan

/-! ## Plans that may end in a fault -/

namespace Engine

variable {kind : Call → Prop}

/-- What is made of the value of a plan leaves its faults, its calls and its state as they are. -/
theorem run_bind_pure {backend : Backend σ} {p : Engine α} {s : σ} {first : Run σ (Except Fault α)}
    (h : p.run.run backend s = first) (f : α → β) :
    (p >>= fun a => pure (f a)).run.run backend s = ⟨first.value.map f, first.exchanges, first.state⟩ := by
  rw [ExceptT.run_bind, Plan.run_bind_of h]
  obtain ⟨value, exchanges, state⟩ := first
  cases value <;> exact congrArg (Run.mk _ · _) (List.append_nil exchanges)

theorem accept_ok_bind (a : α) (f : α → Engine β) : Engine.accept (.ok a) >>= f = f a := rfl

/-- A call of a kind keeps to calls of the kind. -/
theorem within_call {call : Call} (h : kind call) : (Engine.call call).run.Within kind :=
  ⟨h, fun _ => trivial⟩

/-- A result that is there makes no calls, be it a refusal or not. -/
theorem within_accept (result : Except Refusal α) : (Engine.accept result).run.Within kind := by
  cases result <;> trivial

/-- A plan that goes on unless it ends in a fault keeps to calls of a kind if its parts do. -/
theorem within_bind {p : Engine α} {f : α → Engine β} (hp : p.run.Within kind) (hf : ∀ a, (f a).run.Within kind) :
    (p >>= f).run.Within kind := by
  refine Plan.Within.bind hp fun result => ?_
  cases result with
  | ok a => exact hf a
  | error fault => exact Plan.within_pure _

/-- A plan that cannot end in a fault keeps to the same calls where it might. -/
theorem within_lift {p : Plan α} (hp : p.Within kind) : (liftM p : Engine α).run.Within kind :=
  hp.map _

/-- A call that is answered comes to the answer. -/
theorem resumes_call (c : Call) (answer : c.Result) :
    (Engine.call c).run.Resumes [⟨c, .ok answer⟩] (.done (.ok answer)) :=
  .there _ (.here _)

/-- If a plan comes to a value by some exchanges, what follows on it begins after them. -/
theorem resumes_bind {p : Engine α} {exchanges : List Exchange} {a : α}
    (h : p.run.Resumes exchanges (.done (.ok a))) (f : α → Engine β) :
    (p >>= f).run.Resumes exchanges (f a).run :=
  h.bind _

/-- A call comes to the reply that it gets. -/
theorem of_resumes_call {c : Call} {exchanges : List Exchange} {reply : c.Reply}
    (h : (Engine.call c).run.Resumes exchanges (.done reply)) : exchanges = [⟨c, reply⟩] := by
  cases h with
  | there reply rest =>
    cases rest
    rfl

/-- A plan that cannot end in a fault comes to a value. -/
theorem of_resumes_lift {p : Plan α} {exchanges : List Exchange} {result : Except Fault α}
    (h : (liftM p : Engine α).run.Resumes exchanges (.done result)) :
    ∃ a, result = .ok a ∧ p.Resumes exchanges (.done a) := by
  have lifted : (liftM p : Engine α).run = p >>= fun a => .done (.ok a) := by
    change Except.ok <$> p = _
    rw [map_eq_pure_bind]
    rfl
  rw [lifted] at h
  obtain ⟨first, a, rest, rfl, hp, hrest⟩ := h.of_bind
  cases hrest
  exact ⟨a, rfl, by rwa [List.append_nil]⟩

/-- What follows on a plan is not begun if the plan ends in a fault, and otherwise begins where it has come to a value. -/
theorem of_resumes_bind {p : Engine α} {f : α → Engine β} {exchanges : List Exchange} {result : Except Fault β}
    (h : (p >>= f).run.Resumes exchanges (.done result)) :
    (∃ fault, p.run.Resumes exchanges (.done (.error fault)) ∧ result = .error fault) ∨
      ∃ first a rest, exchanges = first ++ rest ∧ p.run.Resumes first (.done (.ok a)) ∧
        (f a).run.Resumes rest (.done result) := by
  obtain ⟨first, value, rest, rfl, hp, hrest⟩ := Plan.Resumes.of_bind h
  cases value with
  | ok a => exact .inr ⟨first, a, rest, rfl, hp, hrest⟩
  | error fault =>
    cases hrest
    exact .inl ⟨fault, by rwa [List.append_nil], rfl⟩

end Engine

end ResourceApi

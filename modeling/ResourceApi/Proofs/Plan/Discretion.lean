import ResourceApi.Proofs.Plan.Acting
import ResourceApi.Proofs.Plan.Parallel

/-!
# Plans that do not tell faults apart

Two results are akin if they are one value, or if both are faults, whichever these are (`Akin`). A plan may go on in another
way when a call fails, and still not let the fault have a say: `Plan.Discreet` says of two plans that akin replies lead them
to the same calls and to related values. Against two backends that answer alike but for the faults, such plans make the same
calls and come to related values (`Plan.Discreet.run`).
-/

namespace ResourceApi

variable {σ τ α β γ δ : Type}

/-- Two results are one value, or both are faults, whichever these are. -/
inductive Akin : Except Fault α → Except Fault α → Prop
  | ok (value : α) : Akin (.ok value) (.ok value)
  | error (fault other : Fault) : Akin (.error fault) (.error other)

/-- A result is akin to itself. -/
theorem Akin.refl (result : Except Fault α) : Akin result result := by
  cases result with
  | ok value => exact .ok value
  | error fault => exact .error fault fault

/-- Two actions come to akin results from states that make no difference, and leave such states. -/
def Action.Twins (same : σ → τ → Prop) (action : Action σ α) (other : Action τ α) : Prop :=
  ∀ s t, same s t → Akin (action s).1 (other t).1 ∧ same (action s).2 (other t).2

/-- Two backends answer every call alike, but for the faults. -/
def Backend.Twins (same : σ → τ → Prop) (backend : Backend σ) (other : Backend τ) : Prop :=
  ∀ call, Action.Twins same (backend call) (other call)

namespace Plan

/-- Two plans make the same calls as long as the replies to them are akin, and then come to related values. -/
inductive Discreet (related : α → β → Prop) : Plan α → Plan β → Prop
  | done {a : α} {b : β} (h : related a b) : Discreet related (.done a) (.done b)
  | ask {call : Call} {next : call.Reply → Plan α} {next' : call.Reply → Plan β}
    (rest : ∀ reply reply', Akin reply reply' → Discreet related (next reply) (next' reply')) :
    Discreet related (.ask call next) (.ask call next')

variable {related : α → β → Prop} {kindred : γ → δ → Prop}

/-- Plans that are put together go on in step, if what follows on related values does. -/
theorem Discreet.bind {p : Plan α} {q : Plan β} {f : α → Plan γ} {g : β → Plan δ} (h : p.Discreet related q)
    (hfg : ∀ a b, related a b → (f a).Discreet kindred (g b)) : (p >>= f).Discreet kindred (q >>= g) := by
  induction h with
  | done h => exact hfg _ _ h
  | ask _ ih => exact .ask ih

/-- What follows on a plan that comes to one value whatever the faults are follows on this value. -/
theorem Discreet.bind_eq {p : Plan α} {f : α → Plan γ} {g : α → Plan δ} (h : p.Discreet Eq p)
    (hfg : ∀ a, (f a).Discreet kindred (g a)) : (p >>= f).Discreet kindred (p >>= g) := by
  refine h.bind ?_
  rintro a _ rfl
  exact hfg a

/-- What is made of the value of a discreet plan does not depend on faults either. -/
theorem Discreet.map {p : Plan α} (h : p.Discreet Eq p) (f : α → γ) : (f <$> p).Discreet Eq (f <$> p) := by
  rw [map_eq_pure_bind]
  exact h.bind_eq fun a => .done rfl

/-- What is done for each item of a list is discreet if it is so for every item. -/
theorem Discreet.forEach {f : α → Plan β} {items : List α} (h : ∀ a ∈ items, (f a).Discreet Eq (f a)) :
    (Plan.forEach f items).Discreet Eq (Plan.forEach f items) := by
  induction items with
  | nil => exact .done rfl
  | cons a rest ih =>
    rw [List.forall_mem_cons] at h
    have first := h.1
    have later := ih h.2
    exact first.bind_eq fun b => later.bind_eq fun more => .done rfl

/-- Against backends that answer alike but for the faults, discreet plans make the same calls. -/
theorem Discreet.run {same : σ → τ → Prop} {backend : Backend σ} {other : Backend τ} (twins : backend.Twins same other)
    {p : Plan α} {q : Plan β} (h : p.Discreet related q) {s : σ} {t : τ} (hs : same s t) :
    let first := p.run backend s
    let second := q.run other t
    related first.value second.value ∧ first.calls = second.calls ∧ same first.state second.state := by
  induction h generalizing s t with
  | done h => exact ⟨h, rfl, hs⟩
  | @ask call next next' rest ih =>
    obtain ⟨replies, states⟩ := twins call s t hs
    obtain ⟨value, calls, state⟩ := ih _ _ replies states
    simp only [run_ask, Run.after, Run.calls, List.map_cons] at calls ⊢
    exact ⟨value, congrArg (call :: ·) calls, state⟩

end Plan

/-! ## Plans that may end in a fault -/

namespace Engine

/-- A call comes to its own reply, and so akin replies lead to akin results. -/
theorem discreet_call (c : Call) : (Engine.call c).run.Discreet Akin (Engine.call c).run :=
  .ask fun _ _ akin => .done akin

theorem discreet_pure (value : α) : (pure value : Engine α).run.Discreet Akin (pure value : Engine α).run :=
  .done (.ok value)

/-- A refusal makes no call, and its fault is always the same. -/
theorem discreet_accept (result : Except Refusal α) :
    (Engine.accept result).run.Discreet Akin (Engine.accept result).run := by
  cases result with
  | ok a => exact .done (.ok a)
  | error reason => exact .done (.error reason.fault reason.fault)

/-- If a plan that may end in a fault is discreet and whatever follows is too, so is all of it. A fault is passed on. -/
theorem discreet_bind {p : Engine α} {f : α → Engine β} (hp : p.run.Discreet Akin p.run)
    (hf : ∀ a, (f a).run.Discreet Akin (f a).run) : (p >>= f).run.Discreet Akin (p >>= f).run := by
  rw [ExceptT.run_bind]
  refine hp.bind fun result result' akin => ?_
  cases akin with
  | ok a => exact hf a
  | error fault other => exact .done (.error fault other)

/-- On a plan that cannot end in a fault, what follows follows on its value. -/
theorem discreet_lift_bind {p : Plan α} {f : α → Engine β} (hp : p.Discreet Eq p)
    (hf : ∀ a, (f a).run.Discreet Akin (f a).run) :
    (liftM p >>= f : Engine β).run.Discreet Akin (liftM p >>= f : Engine β).run := by
  rw [run_lift_bind]
  exact hp.bind_eq hf

end Engine

end ResourceApi

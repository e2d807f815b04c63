import ResourceApi.Proofs.Plan.Resumption

/-!
# Plans side by side

`Plan.Gives` says what a plan comes to whatever the replies are, and `Plan.Parallel` says of two plans that they make the
same calls and come to related values. Both go through plans that are put together part by part. Against one backend from
one state, parallel plans have the same exchanges and leave the same state (`Plan.Parallel.run`).
-/

namespace ResourceApi

variable {σ α β γ δ : Type}

namespace Plan

/-- Whatever the replies are, a plan comes to a value of a kind. -/
def Gives (good : α → Prop) : Plan α → Prop
  | done value => good value
  | ask _ next => ∀ reply, (next reply).Gives good

/-- Two plans make the same calls, and whatever the replies are, they come to related values. -/
inductive Parallel (related : α → β → Prop) : Plan α → Plan β → Prop
  | done {a : α} {b : β} (h : related a b) : Parallel related (.done a) (.done b)
  | ask {call : Call} {next : call.Reply → Plan α} {next' : call.Reply → Plan β}
    (rest : ∀ reply, Parallel related (next reply) (next' reply)) : Parallel related (.ask call next) (.ask call next')

/-! ## What plans come to -/

section Gives

variable {good : α → Prop} {better : β → Prop}

/-- If a plan comes to values of a kind and what follows on these comes to values of another kind, all of it does. -/
theorem Gives.bind {p : Plan α} {f : α → Plan β} (hp : p.Gives good) (hf : ∀ a, good a → (f a).Gives better) :
    (p >>= f).Gives better := by
  induction p with
  | done value => exact hf value hp
  | ask call next ih => exact fun reply => ih reply (hp reply)

/-- What is true of all values is true of what a plan comes to. -/
theorem gives_of_forall {p : Plan α} (h : ∀ a, good a) : p.Gives good := by
  induction p with
  | done value => exact h value
  | ask call next ih => exact ih

/-- If whatever follows on a plan comes to values of a kind, it does not matter what the plan comes to. -/
theorem gives_bind {p : Plan α} {f : α → Plan β} (hf : ∀ a, (f a).Gives better) : (p >>= f).Gives better :=
  (gives_of_forall fun _ => trivial).bind fun a (_ : True) => hf a

/-- Values of a kind are of every wider kind. -/
theorem Gives.mono {p : Plan α} {wider : α → Prop} (hp : p.Gives good) (h : ∀ a, good a → wider a) : p.Gives wider := by
  induction p with
  | done value => exact h value hp
  | ask call next ih => exact fun reply => ih reply (hp reply)

/-- What is made of the values of a kind is what a plan comes to afterwards. -/
theorem Gives.map {p : Plan α} {f : α → β} (hp : p.Gives good) (h : ∀ a, good a → better (f a)) :
    (f <$> p).Gives better := by
  rw [map_eq_pure_bind]
  exact hp.bind h

/-- What is done for each item of a list comes to a list of values in the same order. What is told of each value by the
item that it comes from is told of the list by the list of items. -/
theorem Gives.forEach {f : α → Plan β} {items : List α} {told : β → γ} {telling : α → γ}
    (h : ∀ a ∈ items, (f a).Gives fun b => told b = telling a ∧ better b) :
    (Plan.forEach f items).Gives fun values => values.map told = items.map telling ∧ ∀ b ∈ values, better b := by
  induction items with
  | nil => exact ⟨rfl, List.forall_mem_nil _⟩
  | cons a rest ih =>
    rw [List.forall_mem_cons] at h
    refine h.1.bind fun b first => ?_
    refine (ih h.2).bind fun values later => ?_
    refine ⟨?_, List.forall_mem_cons.2 ⟨first.2, later.2⟩⟩
    rw [List.map_cons, List.map_cons, first.1, later.1]

/-- What is done for each item of a list comes to values of a kind if it does so for every item. -/
theorem Gives.forEach_mem {f : α → Plan β} {items : List α} (h : ∀ a ∈ items, (f a).Gives better) :
    (Plan.forEach f items).Gives fun values => ∀ b ∈ values, better b := by
  have untold : ∀ a ∈ items, (f a).Gives fun b => () = () ∧ better b := fun a ha => (h a ha).mono fun _ held => ⟨rfl, held⟩
  exact (Gives.forEach untold).mono fun _ told => told.2

/-- Whatever the replies were, the value is of the kind that the plan comes to. -/
theorem Gives.of_resumes {p : Plan α} (hp : p.Gives good) {exchanges : List Exchange} {value : α}
    (h : p.Resumes exchanges (.done value)) : good value := by
  induction p generalizing exchanges with
  | done _ =>
    cases h
    exact hp
  | ask call next ih =>
    cases h with
    | there reply rest => exact ih reply (hp reply) rest

/-- A run comes to what the plan comes to whatever the replies are. -/
theorem Gives.run {p : Plan α} (hp : p.Gives good) (backend : Backend σ) (s : σ) : good (p.run backend s).value :=
  hp.of_resumes (resumes_run backend p s)

end Gives

/-! ## Plans that make the same calls -/

section Parallel

variable {related : α → β → Prop} {akin : γ → δ → Prop}

/-- Plans that are put together are parallel if their parts are, those that follow for all related values. -/
theorem Parallel.bind {p : Plan α} {q : Plan β} {f : α → Plan γ} {g : β → Plan δ} (h : p.Parallel related q)
    (hfg : ∀ a b, related a b → (f a).Parallel akin (g b)) : (p >>= f).Parallel akin (q >>= g) := by
  induction h with
  | done h => exact hfg _ _ h
  | ask _ ih => exact .ask ih

/-- What follows on one plan in two ways is parallel if it is so for whatever the plan comes to. -/
theorem Gives.parallel_bind {p : Plan α} {good : α → Prop} {f : α → Plan γ} {g : α → Plan δ} (hp : p.Gives good)
    (h : ∀ a, good a → (f a).Parallel akin (g a)) : (p >>= f).Parallel akin (p >>= g) := by
  induction p with
  | done value => exact h value hp
  | ask call next ih => exact .ask fun reply => ih reply (hp reply)

/-- A plan and what is made of it afterwards. -/
theorem Gives.parallel_map {p : Plan α} {good : α → Prop} (h : p.Gives good) (f : α → β) :
    p.Parallel (fun a b => good a ∧ b = f a) (f <$> p) := by
  induction p with
  | done value => exact .done ⟨h, rfl⟩
  | ask call next ih => exact .ask fun reply => ih reply (h reply)

/-- Parallel plans run alike. -/
theorem Parallel.run {p : Plan α} {q : Plan β} (h : p.Parallel related q) (backend : Backend σ) (s : σ) :
    let first := p.run backend s
    let second := q.run backend s
    related first.value second.value ∧ first.exchanges = second.exchanges ∧ first.state = second.state := by
  induction h generalizing s with
  | done h => exact ⟨h, rfl, rfl⟩
  | @ask call next next' rest ih =>
    obtain ⟨value, exchanges, state⟩ := ih (backend call s).1 (backend call s).2
    simp only [run_ask, Run.after]
    exact ⟨value, congrArg (_ :: ·) exchanges, state⟩

end Parallel

/-- What is made of each value on its own may be made of all of them afterwards. -/
theorem forEach_map (f : α → Plan β) (g : β → γ) (items : List α) :
    forEach (fun a => g <$> f a) items = List.map g <$> forEach f items := by
  induction items with
  | nil => rfl
  | cons a rest ih =>
    have step {δ : Type} (h : α → Plan δ) :
        forEach h (a :: rest) = do let b ← h a; let more ← forEach h rest; return b :: more := rfl
    rw [step, step, ih]
    simp only [map_eq_pure_bind, bind_assoc, pure_bind, List.map_cons]

end Plan

/-! ## Plans that may end in a fault -/

namespace Engine

/-- On a plan that cannot end in a fault, what follows always follows. -/
theorem run_lift_bind (p : Plan α) (f : α → Engine β) : (liftM p >>= f : Engine β).run = p >>= fun a => (f a).run := by
  rw [ExceptT.run_bind]
  change Except.ok <$> p >>= _ = _
  rw [bind_map_left]

/-- A plan that begins with another comes to values of a kind if faults are of the kind and all that follows is. -/
theorem gives_bind {good : Except Fault β → Prop} (faults : ∀ fault, good (.error fault)) {p : Engine α}
    {f : α → Engine β} (h : ∀ a, (f a).run.Gives good) : (p >>= f).run.Gives good := by
  rw [ExceptT.run_bind]
  refine Plan.gives_bind fun result => ?_
  cases result with
  | ok a => exact h a
  | error fault => exact faults fault

section Parallel

variable {akin : Except Fault β → Except Fault γ → Prop} (faults : ∀ fault, akin (.error fault) (.error fault))
  {p : Engine α} {f : α → Engine β} {g : α → Engine γ}

include faults

/-- What follows on one plan in two ways is parallel if it is so for whatever the plan comes to, and if its faults count as
the same. -/
theorem parallel_bind_of_gives {good : α → Prop} (hp : p.run.Gives fun result => ∀ a, result = .ok a → good a)
    (h : ∀ a, good a → (f a).run.Parallel akin (g a).run) : (p >>= f).run.Parallel akin (p >>= g).run := by
  rw [ExceptT.run_bind, ExceptT.run_bind]
  refine hp.parallel_bind fun result told => ?_
  cases result with
  | ok a => exact h a (told a rfl)
  | error fault => exact .done (faults fault)

/-- What follows on one plan in two ways is parallel if it is so for every value. -/
theorem parallel_bind (h : ∀ a, (f a).run.Parallel akin (g a).run) : (p >>= f).run.Parallel akin (p >>= g).run :=
  parallel_bind_of_gives faults (Plan.gives_of_forall fun _ _ _ => trivial) fun a _ => h a

end Parallel

end Engine

end ResourceApi

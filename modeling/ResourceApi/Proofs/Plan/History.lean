import ResourceApi.Proofs.Plan.Resumption

/-!
# Plans that go by what came before

Which calls a plan may make can depend on the exchanges before them: an entity that was never answered cannot be the owner
of anything. `Plan.Heeds` says so of all calls of a plan whatever the replies are, and it tells what is known of the value
by all exchanges before it. It goes through plans that are put together, where each part starts from what the parts before
it have left (`Plan.Heeds.bind`), and in a run it holds of every call at its place (`Plan.Heeds.run`).
-/

namespace ResourceApi

variable {σ α β : Type} {kind : List Exchange → Call → Prop} {past : List Exchange}

namespace Plan

/-- After some exchanges, a plan makes only calls of a kind that depends on the exchanges before them, and comes to a value
of which something is known by the exchanges before it. -/
def Heeds (kind : List Exchange → Call → Prop) (good : List Exchange → α → Prop) : List Exchange → Plan α → Prop
  | past, done value => good past value
  | past, ask call next => kind past call ∧ ∀ reply, (next reply).Heeds kind good (past ++ [⟨call, reply⟩])

variable {good : List Exchange → α → Prop} {better : List Exchange → β → Prop}

/-- What follows on a plan goes by all exchanges before it, those of the plan included. -/
theorem Heeds.bind {p : Plan α} {f : α → Plan β} (hp : p.Heeds kind good past)
    (hf : ∀ later a, good (past ++ later) a → (f a).Heeds kind better (past ++ later)) :
    (p >>= f).Heeds kind better past := by
  induction p generalizing past with
  | done value =>
    have rest := hf [] value
    rw [List.append_nil] at rest
    exact rest hp
  | ask call next ih =>
    refine ⟨hp.1, fun reply => ih reply (hp.2 reply) fun later a held => ?_⟩
    rw [List.append_assoc] at held ⊢
    exact hf _ a held

/-- A plan that keeps to a kind of calls keeps to a wider one, and less may be told of its value. -/
theorem Heeds.mono {wider : List Exchange → Call → Prop} {weaker : List Exchange → α → Prop} {p : Plan α}
    (hp : p.Heeds kind good past) (calls : ∀ later call, kind (past ++ later) call → wider (past ++ later) call)
    (values : ∀ later a, good (past ++ later) a → weaker (past ++ later) a) : p.Heeds wider weaker past := by
  induction p generalizing past with
  | done value =>
    have last := values [] value
    rw [List.append_nil] at last
    exact last hp
  | ask call next ih =>
    have first := calls [] call
    rw [List.append_nil] at first
    refine ⟨first hp.1, fun reply => ih reply (hp.2 reply) (fun later other h => ?_) fun later a h => ?_⟩
    · rw [List.append_assoc] at h ⊢
      exact calls _ other h
    · rw [List.append_assoc] at h ⊢
      exact values _ a h

/-- What is made of a value is known by the same exchanges. -/
theorem Heeds.map {p : Plan α} {f : α → β} (hp : p.Heeds kind good past)
    (h : ∀ later a, good (past ++ later) a → better (past ++ later) (f a)) : (f <$> p).Heeds kind better past := by
  rw [map_eq_pure_bind]
  exact hp.bind h

/-- What is done for each item of a list heeds what came before if it does so for every item, whatever came in between, and
what is known of the values stays known. -/
theorem Heeds.forEach {f : α → Plan β} {items : List α}
    (stays : ∀ past later b, better past b → better (past ++ later) b)
    (h : ∀ a ∈ items, ∀ later, (f a).Heeds kind better (past ++ later)) :
    (Plan.forEach f items).Heeds kind (fun past values => ∀ b ∈ values, better past b) past := by
  induction items generalizing past with
  | nil => exact List.forall_mem_nil _
  | cons a rest ih =>
    rw [List.forall_mem_cons] at h
    have first := h.1 []
    rw [List.append_nil] at first
    refine first.bind fun later b known => ?_
    have more : (Plan.forEach f rest).Heeds kind (fun past values => ∀ b ∈ values, better past b) (past ++ later) := by
      refine ih fun a' among later' => ?_
      rw [List.append_assoc]
      exact h.2 a' among _
    refine more.bind fun later' values told => ?_
    exact List.forall_mem_cons.2 ⟨stays _ _ b known, told⟩

/-- In a run every call is of the kind that goes by the exchanges before it, and of the value is known what goes by all of
them. -/
theorem Heeds.run {p : Plan α} (hp : p.Heeds kind good past) (backend : Backend σ) (s : σ) :
    let run := p.run backend s
    (∀ before e after, run.exchanges = before ++ e :: after → kind (past ++ before) e.call) ∧
      good (past ++ run.exchanges) run.value := by
  induction p generalizing past s with
  | done value =>
    refine ⟨fun before e after parted => ?_, ?_⟩
    · cases before <;> cases parted
    · rw [Plan.run, List.append_nil]
      exact hp
  | ask call next ih =>
    obtain ⟨calls, value⟩ := ih (backend call s).1 (hp.2 _) (backend call s).2
    rw [run_ask]
    refine ⟨fun before e after parted => ?_, ?_⟩
    · cases before with
      | nil =>
        obtain ⟨rfl, -⟩ := List.cons.inj parted
        rw [List.append_nil]
        exact hp.1
      | cons first before =>
        obtain ⟨rfl, rest⟩ := List.cons.inj parted
        have later := calls before e after rest
        rw [List.append_assoc] at later
        exact later
    · rw [List.append_assoc] at value
      exact value

end Plan

/-! ## Plans that may end in a fault -/

namespace Engine

/-- A plan goes by what came before it, and so is what is known of its value if it does not end in a fault. -/
def Heeds (kind : List Exchange → Call → Prop) (good : List Exchange → α → Prop) (past : List Exchange) (p : Engine α) :
    Prop :=
  p.run.Heeds kind (fun past result => ∀ a, result = .ok a → good past a) past

variable {good : List Exchange → α → Prop} {better : List Exchange → β → Prop}

/-- A call heeds what came before if it is of the kind, and its answer is known with the exchange that brought it. -/
theorem heeds_call {call : Call} {good : List Exchange → call.Result → Prop} (h : kind past call)
    (told : ∀ answer, good (past ++ [⟨call, .ok answer⟩]) answer) : (Engine.call call).Heeds kind good past := by
  refine ⟨h, fun reply answer same => ?_⟩
  rw [same]
  exact told answer

/-- A value that is known already needs no call. -/
theorem heeds_pure {value : α} (h : good past value) : (pure value : Engine α).Heeds kind good past := by
  intro a same
  rw [← Except.ok.inj same]
  exact h

/-- A refusal makes no call, and there is no value to be known. -/
theorem heeds_refuse (reason : Refusal) : (Engine.refuse reason).Heeds kind good past := nofun

/-- What follows on a plan goes by all exchanges before it, and is not begun after a fault. -/
theorem heeds_bind {p : Engine α} {f : α → Engine β} (hp : p.Heeds kind good past)
    (hf : ∀ later a, good (past ++ later) a → (f a).Heeds kind better (past ++ later)) :
    (p >>= f).Heeds kind better past := by
  refine Plan.Heeds.bind hp fun later result told => ?_
  cases result with
  | ok a => exact hf later a (told a rfl)
  | error fault => exact nofun

/-- What follows on something that is accepted follows at once. -/
theorem heeds_accept_bind {result : Except Refusal α} {f : α → Engine β}
    (hf : ∀ a, result = .ok a → (f a).Heeds kind better past) : (Engine.accept result >>= f).Heeds kind better past := by
  cases result with
  | ok a => exact hf a rfl
  | error reason => exact heeds_refuse reason

/-- A plan that cannot end in a fault heeds the same where it might. -/
theorem heeds_lift {p : Plan α} (hp : p.Heeds kind good past) : (liftM p : Engine α).Heeds kind good past := by
  refine Plan.Heeds.map hp fun later a told b same => ?_
  rw [← Except.ok.inj same]
  exact told

end Engine

end ResourceApi

import ResourceApi.Fault.Refusal
import ResourceApi.Plan.Call

/-!
# Plans

A plan is what the engine makes of a request: a value, or a call and for each reply to it a plan for the rest. A
backend that answers calls runs a plan. The run keeps every call with its reply in order, and running two plans one
after the other joins their records (`run_bind`).
-/

namespace ResourceApi

/-- A value of `α` after any number of calls, each of which may depend on the replies before it. -/
inductive Plan (α : Type) where
  | done (value : α)
  | ask (call : Call) (next : call.Reply → Plan α)

namespace Plan

variable {α β : Type}

/-- Go on from the value of a plan. -/
def bind : Plan α → (α → Plan β) → Plan β
  | done value, f => f value
  | ask call next, f => ask call fun reply => (next reply).bind f

instance : Monad Plan where
  pure := done
  bind := bind

theorem bind_done (p : Plan α) : p.bind done = p := by
  induction p with
  | done => rfl
  | ask call next ih => exact congrArg (ask call) (funext ih)

theorem bind_bind {γ : Type} (p : Plan α) (f : α → Plan β) (g : β → Plan γ) :
    (p.bind f).bind g = p.bind fun a => (f a).bind g := by
  induction p with
  | done => rfl
  | ask call next ih => exact congrArg (ask call) (funext ih)

instance : LawfulMonad Plan :=
  LawfulMonad.mk' Plan (fun p => bind_done p) (fun _ _ => rfl) (fun p f g => bind_bind p f g)

/-- Do the same for every item of a list, in order. -/
def forEach (f : α → Plan β) : List α → Plan (List β)
  | [] => done []
  | a :: rest => (f a).bind fun b => (forEach f rest).bind fun more => done (b :: more)

end Plan

/-- A call with the reply to it. -/
structure Exchange where
  call : Call
  reply : call.Reply

/-- What answers calls: a reply, and the state after it. -/
abbrev Backend (σ : Type) : Type :=
  (call : Call) → σ → call.Reply × σ

/-- A finished run: the value, all exchanges in order, and the state it leaves. -/
structure Run (σ α : Type) where
  value : α
  exchanges : List Exchange
  state : σ

namespace Plan

variable {σ α β : Type}

/-- Run a plan against a backend from a state. -/
def run (backend : Backend σ) : Plan α → σ → Run σ α
  | done value, s => ⟨value, [], s⟩
  | ask call next, s =>
    let (reply, s) := backend call s
    let rest := (next reply).run backend s
    ⟨rest.value, ⟨call, reply⟩ :: rest.exchanges, rest.state⟩

theorem run_bind (backend : Backend σ) (p : Plan α) (f : α → Plan β) (s : σ) :
    (p.bind f).run backend s =
      let first := p.run backend s
      let rest := (f first.value).run backend first.state
      ⟨rest.value, first.exchanges ++ rest.exchanges, rest.state⟩ := by
  induction p generalizing s with
  | done value => rfl
  | ask call next ih => simp [bind, run, ih]

end Plan

/-- A plan that may end in a fault. -/
abbrev Engine : Type → Type :=
  ExceptT Fault Plan

namespace Engine

variable {α : Type}

/-- Make a call; a fault in reply ends the plan. -/
def call (c : Call) : Engine c.Result :=
  ExceptT.mk (.ask c .done)

/-- End with a refusal. -/
def refuse (reason : Refusal) : Engine α :=
  ExceptT.mk (.done (.error reason.fault))

/-- Go on with a value, or end with the refusal found in its place. -/
def accept : Except Refusal α → Engine α
  | .ok value => ExceptT.mk (.done (.ok value))
  | .error reason => refuse reason

/-- Find the entities of a type that match a request. -/
def list (type : String) (request : Request) : Engine (List Entity) :=
  call (.list type request)

/-- Find the entity of a type with an id. -/
def fetch (type id : String) (request : Request) : Engine Entity :=
  call (.fetch type id request)

/-- Find the entities of a type with the given ids. -/
def fetchMany (type : String) (ids : List String) (request : Request) : Engine (List Entity) :=
  call (.fetchMany type ids request)

/-- Store a new entity of a type; the answer is its id. -/
def create (type : String) (entity : Entity) : Engine String :=
  call (.create type entity)

/-- Store changes to an entity of a type. -/
def update (type : String) (entity : Entity) : Engine Unit :=
  call (.update type entity)

/-- Remove the entity of a type with an id. -/
def delete (type id : String) : Engine Unit :=
  call (.delete type id)

end Engine

end ResourceApi

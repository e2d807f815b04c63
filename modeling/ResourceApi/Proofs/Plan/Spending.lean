import ResourceApi.Proofs.Plan.Resumption

/-!
# Plans that spend calls

`Plan.Spends` says of calls of one kind, such as writes, that a plan makes none but those of a given list, in their order
and each at most once, whatever the replies are. It goes through plans that are put together by joining the lists
(`Plan.Spends.bind`), and the calls of a run are then a part of the list (`Plan.Spends.calls_sublist`). A list with one
call says so both that there is at most one call of the kind and which.
-/

namespace ResourceApi

variable {σ α β : Type} {kind : Call → Bool}

/-- Whatever the replies are, the calls of a kind that a plan makes are some of the allowed ones, in their order and each
at most once. -/
inductive Plan.Spends (kind : Call → Bool) : List Call → Plan α → Prop
  | done (allowed : List Call) (value : α) : Spends kind allowed (.done value)
  /-- A call of another kind costs nothing. -/
  | free {allowed : List Call} {call : Call} {next : call.Reply → Plan α} (other : kind call = false)
    (rest : ∀ reply, Spends kind allowed (next reply)) : Spends kind allowed (.ask call next)
  /-- A call that is allowed may be made, and then only what comes after it is left. -/
  | spent {allowed left : List Call} {call : Call} {next : call.Reply → Plan α}
    (among : (call :: left).Sublist allowed) (rest : ∀ reply, Spends kind left (next reply)) :
    Spends kind allowed (.ask call next)

namespace Plan

/-- Whoever is allowed more may spend the same. -/
theorem Spends.mono {allowed more : List Call} {p : Plan α} (h : p.Spends kind allowed) (sub : allowed.Sublist more) :
    p.Spends kind more := by
  induction h generalizing more with
  | done allowed value => exact .done more value
  | free other _ ih => exact .free other fun reply => ih reply sub
  | spent among rest _ => exact .spent (among.trans sub) rest

/-- What follows on a plan has its own calls to spend. -/
theorem Spends.bind {first later : List Call} {p : Plan α} {f : α → Plan β} (hp : p.Spends kind first)
    (hf : ∀ a, (f a).Spends kind later) : (p >>= f).Spends kind (first ++ later) := by
  induction hp with
  | done allowed value => exact (hf value).mono (List.sublist_append_right _ _)
  | free other _ ih => exact .free other ih
  -- A call of the first part is spent from its own calls, and all those of the second are still left after it.
  | spent among _ ih => exact .spent (among.append (List.Sublist.refl _)) ih

/-- A plan that makes no calls of a kind needs none to be allowed. -/
theorem Within.spends_nil {p : Plan α} (h : p.Within fun call => kind call = false) : p.Spends kind [] := by
  induction p with
  | done value => exact .done _ value
  | ask call next ih => exact .free h.1 fun reply => ih reply (h.2 reply)

/-- What is made of a value spends no calls. -/
theorem Spends.map {allowed : List Call} {p : Plan α} (h : p.Spends kind allowed) (f : α → β) :
    (f <$> p).Spends kind allowed := by
  have told (a : α) : (pure (f a) : Plan β).Spends kind [] := .done [] (f a)
  have mapped := h.bind told
  rw [List.append_nil] at mapped
  rw [map_eq_pure_bind]
  exact mapped

/-- The calls of a kind in a run are some of those that the plan may spend. -/
theorem Spends.calls_sublist {allowed : List Call} {p : Plan α} (h : p.Spends kind allowed) (backend : Backend σ)
    (s : σ) : ((p.run backend s).calls.filter kind).Sublist allowed := by
  induction h generalizing s with
  | done allowed value => exact List.nil_sublist _
  | @free allowed call next other rest ih =>
    have tail := ih (backend call s).1 (backend call s).2
    rw [run_ask, Run.after, Run.calls, List.map_cons, List.filter_cons_of_neg (Bool.eq_false_iff.1 other)]
    exact tail
  | @spent allowed left call next among rest ih =>
    have tail := ih (backend call s).1 (backend call s).2
    rw [run_ask, Run.after, Run.calls, List.map_cons]
    refine List.Sublist.trans ?_ among
    by_cases own : kind call = true
    · rw [List.filter_cons_of_pos own]
      exact tail.cons_cons _
    · rw [List.filter_cons_of_neg own]
      exact tail.cons _

end Plan

/-! ## Plans that may end in a fault -/

namespace Engine

/-- A call is spent if it is of the kind, and may be counted as spent if it is not. -/
theorem spends_call {c : Call} (allowed : List Call) : (Engine.call c).run.Spends kind (c :: allowed) :=
  .spent (List.Sublist.refl _) fun _ => .done _ _

/-- What follows on a plan that may end in a fault has its own calls to spend. After a fault they are left. -/
theorem spends_bind {first later : List Call} {p : Engine α} {f : α → Engine β} (hp : p.run.Spends kind first)
    (hf : ∀ a, (f a).run.Spends kind later) : (p >>= f).run.Spends kind (first ++ later) := by
  refine Plan.Spends.bind hp fun result => ?_
  cases result with
  | ok a => exact hf a
  | error fault => exact .done _ _

end Engine

end ResourceApi

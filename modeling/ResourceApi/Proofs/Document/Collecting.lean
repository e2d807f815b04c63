import ResourceApi.Document.Assembly
import ResourceApi.Proofs.Document.LinkedRecords

/-!
# One set of linked records

Linked records can be collected in one set that is handed from relation to relation and from record to record, each adding
what it leads to. The set has no say in what is looked up and shown (`showInto_eq_showPrimary`), so a report may as well
collect first and join in the end, which is how it is made (`reportOf_eq_showInto`, `reportOfAll_eq_showAllInto`).
-/

namespace ResourceApi

variable {α β γ δ : Type}

namespace Plan

/-- Do something for every item of a list, in order, and hand what each leaves to the next. -/
def thread (f : α → γ → Plan (β × γ)) : List α → γ → Plan (List β × γ)
  | [], c => pure ([], c)
  | a :: rest, c => do
    let (b, c) ← f a c
    let (more, c) ← thread f rest c
    return (b :: more, c)

/-- If what is handed on has no say in what is done, it can be put together in the end. It may have one before it is known
to be of a kind that is kept. -/
theorem thread_eq_forEach_of (kept : γ → Prop) {f : α → γ → Plan (β × γ)} {g : α → Plan δ} {out : δ → β}
    {keep : γ → δ → γ} (step : ∀ a c, kept c → f a c = do let d ← g a; return (out d, keep c d))
    (keeps : ∀ c d, kept c → kept (keep c d)) (items : List α) {c : γ} (hc : kept c) :
    thread f items c = do
      let all ← forEach g items
      return (all.map out, all.foldl keep c) := by
  induction items generalizing c with
  | nil => rfl
  | cons a rest ih =>
    have both : forEach g (a :: rest) = do let d ← g a; let more ← forEach g rest; return d :: more := rfl
    have first : thread f (a :: rest) c = do
        let d ← g a
        let (more, c) ← thread f rest (keep c d)
        return (out d :: more, c) := by
      simp only [thread, step a c hc, bind_assoc, pure_bind]
    rw [first, both]
    simp only [ih (keeps c _ hc), bind_assoc, pure_bind, List.map_cons, List.foldl_cons]

/-- What is handed on never has a say if it is only put together. -/
theorem thread_eq_forEach (f : α → Plan δ) (out : δ → β) (keep : γ → δ → γ) (items : List α) (c : γ) :
    thread (fun a c => do let d ← f a; return (out d, keep c d)) items c = do
      let all ← forEach f items
      return (all.map out, all.foldl keep c) :=
  thread_eq_forEach_of (fun _ => True) (fun _ _ _ => rfl) (fun _ _ _ => trivial) items trivial

end Plan

namespace Viewpoint

variable (v : Viewpoint)

/-- Look up a field of a record, and add what it leads to to a set. -/
def lookupInto (r : Record) (field : Field) (set : LinkedRecords) : Plan (Option Lookup × LinkedRecords) := do
  let found ← v.lookup r true field
  return (found, set.insertAll (Lookup.records found.toList))

/-- Show a record that was asked for, and add what each of its relations leads to to a set. -/
def showInto (r : Record) (set : LinkedRecords) : Plan (Shown × LinkedRecords) := do
  let (found, set) ← Plan.thread (v.lookupInto r) r.schema.relations set
  return (⟨r, Lookup.links (found.filterMap id)⟩, set)

/-- Show records that were asked for one after another, with one set for what their relations lead to. -/
def showAllInto (records : List Record) (set : LinkedRecords) : Plan (List Shown × LinkedRecords) :=
  Plan.thread v.showInto records set

/-- The records of what was looked up are those of each lookup that gave anything. -/
theorem records_filterMap (found : List (Option Lookup)) :
    Lookup.records (found.filterMap id) = found.flatMap fun l => Lookup.records l.toList := by
  induction found with
  | nil => rfl
  | cons l rest ih =>
    cases l with
    | none => exact ih
    | some l =>
      have head : Lookup.records (some l).toList = l.found := List.append_nil l.found
      rw [List.flatMap_cons, ← ih, head]
      rfl

/-- The set has no say in what is looked up. -/
theorem showInto_eq_lookups (r : Record) (set : LinkedRecords) :
    v.showInto r set = do
      let lookups ← v.lookups r true
      return (⟨r, Lookup.links lookups⟩, set.insertAll (Lookup.records lookups)) := by
  have threaded := Plan.thread_eq_forEach (v.lookup r true) id
    (fun set (found : Option Lookup) => set.insertAll (Lookup.records found.toList)) r.schema.relations set
  have lookupInto : v.lookupInto r = fun field set => do
      let found ← v.lookup r true field
      return (id found, set.insertAll (Lookup.records found.toList)) := rfl
  rw [showInto, lookupInto, threaded]
  simp only [lookups, bind_assoc, pure_bind, List.map_id, LinkedRecords.foldl_insertAll, records_filterMap]

/-- Nor has it in how a record is shown and in what its relations lead to. -/
theorem showInto_eq_showPrimary (r : Record) (set : LinkedRecords) :
    v.showInto r set = do
      let shown ← v.showPrimary r
      return (shown.1, set.insertAll shown.2) := by
  simp only [showInto_eq_lookups, showPrimary, bind_assoc, pure_bind]

/-- Nor has it when it is handed from record to record. -/
theorem showAllInto_eq_forEach (records : List Record) (set : LinkedRecords) :
    v.showAllInto records set = do
      let shown ← Plan.forEach v.showPrimary records
      return (shown.map Prod.fst, set.insertAll (shown.flatMap Prod.snd)) := by
  have threaded := Plan.thread_eq_forEach v.showPrimary Prod.fst
    (fun set (shown : Shown × List Record) => set.insertAll shown.2) records set
  have showInto : v.showInto = fun r set => do
      let shown ← v.showPrimary r
      return (shown.1, set.insertAll shown.2) := funext fun r => funext fun set => v.showInto_eq_showPrimary r set
  rw [showAllInto, showInto, threaded]
  simp only [LinkedRecords.foldl_insertAll]

/-- A report of one record starts with no linked records. -/
theorem reportOf_eq_showInto (r : Record) :
    v.reportOf r = (do
      let (shown, set) ← v.showInto r .empty
      v.finish (.one shown) set) := by
  simp only [showInto_eq_showPrimary, bind_assoc, pure_bind]
  rfl

/-- A report of many records hands one set of linked records from each of them to the next. -/
theorem reportOfAll_eq_showAllInto (records : List Record) :
    v.reportOfAll records = (do
      let (shown, set) ← v.showAllInto records .empty
      v.finish (.many shown) set) := by
  simp only [showAllInto_eq_forEach, bind_assoc, pure_bind]
  rfl

end Viewpoint

end ResourceApi

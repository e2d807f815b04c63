import ResourceApi.Proofs.Api.Forms
import ResourceApi.Proofs.Json.Reader

/-!
# What is told of faults

The document of a fault is read back whatever characters its texts hold (`Fault.readable_json`), so a client learns its errors
and no more: two faults of which something is told are told alike just if their statuses and their errors are the same
(`Fault.response_eq_iff`), and kinds, causes and titles over field errors do not show (`told_of_faults`).
-/

namespace ResourceApi

/-- An error of a field is known from its object. -/
theorem FieldFault.json_injective : Function.Injective FieldFault.json := by
  intro e other same
  simp only [json, Json.obj.injEq, List.cons.injEq, Prod.mk.injEq, Json.str.injEq, true_and, and_true] at same
  obtain ⟨id, path⟩ := e
  obtain ⟨rfl, rfl⟩ := same
  rfl

namespace Fault

variable {fault : Fault}

/-! ## Errors -/

/-- Without errors of fields a fault tells its status and its title. -/
theorem errors_of_nil (none : fault.fieldFaults = []) :
    fault.errors = [.obj [("status", .str (Text.decimal fault.status)), ("title", .str fault.title)]] := by
  rw [errors, none]

/-- If there are errors of fields, these are told and nothing else. -/
theorem errors_of_ne_nil (some : fault.fieldFaults ≠ []) : fault.errors = fault.fieldFaults.map FieldFault.json := by
  obtain ⟨first, more, held⟩ := List.exists_cons_of_ne_nil some
  rw [errors, held]

/-- A status and a title are no error of a field. -/
theorem errors_ne_of_nil {other : Fault} (none : fault.fieldFaults = []) (some : other.fieldFaults ≠ []) :
    fault.errors ≠ other.errors := by
  obtain ⟨first, more, held⟩ := List.exists_cons_of_ne_nil some
  rw [errors_of_nil none, errors_of_ne_nil some, held]
  simp [FieldFault.json]

/-- The errors tell the field errors, and where there are none the title. -/
theorem errors_eq_iff {other : Fault} (status : fault.status = other.status) :
    fault.errors = other.errors ↔
      fault.fieldFaults = other.fieldFaults ∧ (fault.fieldFaults = [] → fault.title = other.title) := by
  by_cases none : fault.fieldFaults = []
  · by_cases none' : other.fieldFaults = []
    · rw [errors_of_nil none, errors_of_nil none', none, none', status]
      simp
    · exact iff_of_false (errors_ne_of_nil none none') fun same => none' (same.1.symm.trans none)
  · by_cases none' : other.fieldFaults = []
    · exact iff_of_false (errors_ne_of_nil none' none).symm fun same => none (same.1.trans none')
    · rw [errors_of_ne_nil none, errors_of_ne_nil none', List.map_inj_right fun _ _ => FieldFault.json_injective.eq_iff.1]
      exact ⟨fun same => ⟨same, fun empty => absurd empty none⟩, And.left⟩

/-- Every error is an object of two texts, in the order of their names. -/
theorem readable_of_mem_errors {error : Json} (among : error ∈ fault.errors) : error.Readable 1 := by
  have texts {first later : String} (order : Text.before first later = true) (a b : String) :
      (Json.obj [(first, .str a), (later, .str b)]).Readable 1 := by
    refine .obj (List.pairwise_pair.2 order) fun member held => ?_
    simp only [List.mem_cons, List.not_mem_nil, or_false] at held
    rcases held with rfl | rfl <;> exact .str _
  by_cases none : fault.fieldFaults = []
  · rw [errors_of_nil none, List.mem_singleton] at among
    exact among ▸ texts (by decide) _ _
  · rw [errors_of_ne_nil none] at among
    obtain ⟨e, -, rfl⟩ := List.mem_map.1 among
    exact texts (by decide) _ _

/-- The document of a fault is read back. -/
theorem readable_json (fault : Fault) : fault.json.Readable Json.maxDepth := by
  have shallow : fault.json.Readable 3 := by
    refine .obj (List.pairwise_singleton _ _) fun member held => ?_
    obtain rfl := List.mem_singleton.1 held
    exact .arr fun error among => readable_of_mem_errors among
  exact shallow.mono (by decide)

/-- Errors of fields stand in the order in which they are added. -/
theorem fieldFaults_addField (fault : Fault) (added : List FieldFault) :
    (added.foldl (fun fault e => fault.addField e.id e.path) fault).fieldFaults = fault.fieldFaults ++ added := by
  induction added generalizing fault with
  | nil => exact (List.append_nil _).symm
  | cons e rest ih =>
    rw [List.foldl_cons, ih]
    exact List.append_cons .. ▸ rfl

/-! ## Responses -/

/-- The errors are read from the body, under the status of the fault. -/
theorem told_of_explained (told : fault.kind ≠ .internal) (requestId : String) :
    (fault.response requestId).status = fault.status ∧
      Json.ofBytes? (fault.response requestId).body.content = some (.obj [("errors", .arr fault.errors)]) := by
  rw [Response.ofFault_of_explained told]
  exact ⟨rfl, fault.readable_json.ofBytes?_bytes⟩

/-- Of faults of which something is told nothing shows but the status and the errors. -/
theorem response_eq_iff {other : Fault} (told : fault.kind ≠ .internal) (told' : other.kind ≠ .internal)
    (requestId : String) :
    fault.response requestId = other.response requestId ↔
      fault.status = other.status ∧ fault.fieldFaults = other.fieldFaults ∧
        (fault.fieldFaults = [] → fault.title = other.title) := by
  obtain ⟨status, read⟩ := told_of_explained told requestId
  obtain ⟨status', read'⟩ := told_of_explained told' requestId
  constructor
  · intro same
    have statuses : fault.status = other.status := by rw [← status, ← status', same]
    have errors : fault.errors = other.errors := by
      rw [same, read'] at read
      simpa using read.symm
    exact ⟨statuses, (errors_eq_iff statuses).1 errors⟩
  · rintro ⟨statuses, same⟩
    have errors : fault.errors = other.errors := (errors_eq_iff statuses).2 same
    rw [Response.ofFault_of_explained told, Response.ofFault_of_explained told', json, json, errors, statuses]

end Fault

/-- A fault that is not internal is told under its status, and from the body are read its field errors in the order in which they
were added, or if there are none its status and its title. Two such faults are told alike just if their statuses and their field
errors are the same, and without field errors their titles. Internal faults are all told alike: the server failed, and that is
all. -/
theorem told_of_faults (requestId : String) :
    (∀ fault : Fault, fault.kind ≠ .internal →
      (fault.response requestId).status = fault.status ∧
        ∃ errors, Json.ofBytes? (fault.response requestId).body.content = some (.obj [("errors", .arr errors)]) ∧
          (fault.fieldFaults ≠ [] →
            errors = fault.fieldFaults.map fun e => .obj [("id", .str e.id), ("path", .str e.path)]) ∧
          (fault.fieldFaults = [] →
            errors = [.obj [("status", .str (Text.decimal fault.status)), ("title", .str fault.title)]])) ∧
      (∀ (fault : Fault) (added : List FieldFault),
        (added.foldl (fun fault e => fault.addField e.id e.path) fault).fieldFaults = fault.fieldFaults ++ added) ∧
      (∀ fault other : Fault, fault.kind ≠ .internal → other.kind ≠ .internal →
        (fault.response requestId = other.response requestId ↔
          fault.status = other.status ∧ fault.fieldFaults = other.fieldFaults ∧
            (fault.fieldFaults = [] → fault.title = other.title))) ∧
      ∀ fault : Fault, fault.kind = .internal →
        fault.response requestId = .bare .internalServerError requestId ∧ (fault.response requestId).body.content = [] := by
  refine ⟨fun fault told => ?_, Fault.fieldFaults_addField, fun fault other told told' => ?_, fun fault silent => ?_⟩
  · obtain ⟨status, read⟩ := Fault.told_of_explained told requestId
    exact ⟨status, fault.errors, read, Fault.errors_of_ne_nil, Fault.errors_of_nil⟩
  · exact Fault.response_eq_iff told told' requestId
  · rw [Response.ofFault_of_internal silent]
    exact ⟨rfl, rfl⟩

/-- A validation fault and one of a chosen status are told alike by the same errors of fields, whose texts hold quotes and line
ends. One without errors of fields tells its title, and of an internal fault not even a chosen status is told. -/
theorem quoted_faults_told :
    let wrong := ((Fault.validation "invalid post").addField "too\"long" "a\nb").addField "é" ""
    let chosen := (((Fault.chosen .badRequest "no").addField "too\"long" "a\nb").addField "é" "").becauseOf "disk full"
    let secret : Fault := { (Fault.internal "no disk").addField "é" "" with status := .notFound }
    (Json.ofBytes? (wrong.response "7").body.content =
        some (.obj [("errors", .arr [.obj [("id", .str "too\"long"), ("path", .str "a\nb")],
          .obj [("id", .str "é"), ("path", .str "")]])]) ∧
      wrong.response "7" = chosen.response "7") ∧
      Json.ofBytes? ((Fault.notFound "no \"post\"").response "7").body.content =
        some (.obj [("errors", .arr [.obj [("status", .str "404"), ("title", .str "no \"post\"")]])]) ∧
      secret.response "7" = .bare .internalServerError "7" := by
  intro wrong chosen secret
  obtain ⟨told, -, alike, silent⟩ := told_of_faults "7"
  refine ⟨⟨?_, (alike wrong chosen (by decide) (by decide)).2 ⟨rfl, rfl, nofun⟩⟩, ?_, (silent secret rfl).1⟩
  · obtain ⟨-, errors, read, fields, -⟩ := told wrong (by decide)
    rw [read, fields (by decide)]
    rfl
  · obtain ⟨-, errors, read, -, whole⟩ := told (.notFound "no \"post\"") (by decide)
    rw [read, whole rfl]
    rfl

end ResourceApi

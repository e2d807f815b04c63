import ResourceApi.Document.Report
import ResourceApi.Proofs.Json.Printer

/-!
# What documents show

A document shows an id if it holds an object that has it: as what was asked for, or among the records that were asked for or
that come with them. Which ids it shows can be told from its bytes (`Document.Shows.of_bytes`): two documents may have the
same bytes and still differ, in numbers that are spelled alike, but not in the ids that they show.
-/

namespace ResourceApi

/-- A value is an object with an id. -/
def Json.Identifies (value : Json) (id : String) : Prop :=
  ∃ members, value = .obj members ∧ ("id", .str id) ∈ members

/-- A document shows the record of an id. -/
inductive Document.Shows (d : Document) (id : String) : Prop
  | one (data : d.data.Identifies id)
  | many {items : List Json} {item : Json} (data : d.data = .arr items) (among : item ∈ items) (own : item.Identifies id)
  | linked {item : Json} (among : item ∈ d.linked) (own : item.Identifies id)

/-- A value that is written as another one has its id. -/
theorem Json.Identifies.of_print {value value' : Json} {id : String} (h : value.Identifies id)
    (same : print value = print value') : value'.Identifies id := by
  obtain ⟨members, rfl, own⟩ := h
  obtain ⟨members', rfl, texts⟩ := obj_of_print same
  have text : memberText ("id", .str id) ∈ members'.map memberText := texts ▸ List.mem_map_of_mem own
  obtain ⟨⟨name, held⟩, among, told⟩ := List.mem_map.1 text
  obtain ⟨rfl, value⟩ := Prod.mk.inj told
  obtain rfl := str_of_print value.symm
  exact ⟨members', rfl, among⟩

/-- Lists of values with the same texts have the same ids. -/
theorem Json.Identifies.of_map_print {items items' : List Json} (same : items.map print = items'.map print) {id : String}
    {item : Json} (among : item ∈ items) (h : item.Identifies id) : ∃ item' ∈ items', item'.Identifies id := by
  have text : print item ∈ items'.map print := same ▸ List.mem_map_of_mem among
  obtain ⟨item', among', told⟩ := List.mem_map.1 text
  exact ⟨item', among', h.of_print told.symm⟩

namespace Document

variable {d d' : Document}

/-- The bytes of a document tell the texts of what it holds. -/
theorem texts_of_bytes (same : d.json.bytes = d'.json.bytes) :
    Json.print d.data = Json.print d'.data ∧ d.linked.map Json.print = d'.linked.map Json.print := by
  obtain ⟨members, object, texts⟩ := Json.obj_of_print (Json.print_of_bytes same)
  cases object
  obtain ⟨data, linked⟩ := List.cons.inj texts
  refine ⟨(Prod.mk.inj data).2, ?_⟩
  -- Records come with the data in both documents or in neither.
  cases first : d.linked with
  | nil =>
    cases second : d'.linked with
    | nil => rfl
    | cons item more => simp [first, second] at linked
  | cons item more =>
    cases second : d'.linked with
    | nil => simp [first, second] at linked
    | cons item' more' =>
      have arrays : Json.print (.arr (item :: more)) = Json.print (.arr (item' :: more')) := by
        simpa [first, second, Json.memberText] using linked
      obtain ⟨items, same, listed⟩ := Json.arr_of_print arrays
      cases same
      exact listed

/-- A document of the same bytes as another one shows the same ids. -/
theorem Shows.of_bytes {id : String} (h : d.Shows id) (same : d.json.bytes = d'.json.bytes) : d'.Shows id := by
  obtain ⟨data, linked⟩ := texts_of_bytes same
  cases h with
  | one own => exact .one (own.of_print data)
  | @many items item holds among own =>
    rw [holds] at data
    obtain ⟨items', holds', listed⟩ := Json.arr_of_print data
    obtain ⟨item', among', own'⟩ := own.of_map_print listed among
    exact .many holds' among' own'
  | linked among own =>
    obtain ⟨item', among', own'⟩ := own.of_map_print linked among
    exact .linked among' own'

end Document

end ResourceApi

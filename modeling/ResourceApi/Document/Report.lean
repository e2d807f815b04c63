import ResourceApi.Document.Record

/-!
# Reports and documents

A report is what an answer tells: the records that were asked for and, beside them, the records that their links lead
to, each with its links. A document is a report as it is sent, as JSON.
-/

namespace ResourceApi

/-- A record with its links. -/
structure Shown where
  record : Record
  links : Links

/-- A record with its links as a JSON object. -/
def Shown.json (s : Shown) : Json :=
  s.record.render s.links

/-- What was asked for. -/
inductive Primary where
  /-- A single record that is not there. -/
  | nothing
  /-- A single record. -/
  | one (shown : Shown)
  /-- Any number of records. -/
  | many (shown : List Shown)

/-- What was asked for, as a JSON value. -/
def Primary.json : Primary → Json
  | nothing => .null
  | one shown => shown.json
  | many shown => .arr (shown.map Shown.json)

/-- What an answer tells. -/
structure Report where
  primary : Primary
  /-- The records that the links lead to. -/
  linked : List Shown

/-- What an answer holds. -/
structure Document where
  /-- What was asked for. -/
  data : Json
  /-- The records that the links lead to. -/
  linked : List Json

/-- The document of a report. -/
def Report.document (r : Report) : Document where
  data := r.primary.json
  linked := r.linked.map Shown.json

/-- A document as a JSON object; without linked records it does not mention them. -/
def Document.json (d : Document) : Json :=
  .obj (("data", d.data) :: if d.linked.isEmpty then [] else [("linked", .arr d.linked)])

end ResourceApi

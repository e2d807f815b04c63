import ResourceApi.Document.Record

/-!
# Linked records

The records that come with a document, each once: a second record of the same type and id is dropped, and the first
stays where it is.
-/

namespace ResourceApi

/-- Records in the order in which they came, no two with one key. -/
structure LinkedRecords where
  records : List Record
  distinct : (records.map Record.key).Nodup

namespace LinkedRecords

/-- No records. -/
def empty : LinkedRecords where
  records := []
  distinct := .nil

instance : Inhabited LinkedRecords := ⟨empty⟩

/-- Whether there is a record of a key. -/
def contains (s : LinkedRecords) (key : String × String) : Bool :=
  (s.records.map Record.key).contains key

/-- Add a record, unless there is one of its key. -/
def insert (s : LinkedRecords) (r : Record) : LinkedRecords :=
  if h : s.contains r.key then s
  else
    { records := s.records ++ [r]
      distinct := by
        rw [List.map_append, List.nodup_append]
        refine ⟨s.distinct, by simp, ?_⟩
        intro k hk k' hk'
        obtain rfl : k' = r.key := by simpa using hk'
        rintro rfl
        exact h (List.contains_iff_mem.2 hk) }

/-- Add records one after another. -/
def insertAll (s : LinkedRecords) (records : List Record) : LinkedRecords :=
  records.foldl insert s

/-- The records of a list, each key once. -/
def ofList (records : List Record) : LinkedRecords :=
  empty.insertAll records

/-- The number of records. -/
def size (s : LinkedRecords) : Nat :=
  s.records.length

end LinkedRecords

end ResourceApi

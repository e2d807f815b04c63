import ResourceApi.Document.LinkedRecords

/-!
# What linked records hold

Adding a list of records to linked records appends those of new keys, of each key the first (`records_insertAll`).
Records that were cut down to the first of each key before they are added make no difference (`insertAll_insertAll`),
which is why it does not matter whether records are collected in one set or in several that are joined afterwards.
-/

namespace ResourceApi

variable {α β : Type}

/-- Whether two records have one type and one id. -/
def Record.sameKey (a b : Record) : Bool :=
  a.key == b.key

/-! ## Dropping repeated items -/

/-- Repeated items can be dropped before or after a function goes through a list. -/
theorem eraseDupsBy_map (f : α → β) (same : β → β → Bool) (items : List α) :
    (items.map f).eraseDupsBy same = (items.eraseDupsBy fun a b => same (f a) (f b)).map f := by
  match items with
  | [] => rfl
  | a :: rest =>
    rw [List.map_cons, List.eraseDupsBy_cons, List.eraseDupsBy_cons, List.map_cons, List.filter_map]
    exact congrArg (f a :: ·) (eraseDupsBy_map f same _)
termination_by items.length
decreasing_by exact Nat.lt_succ_of_le (List.length_filter_le _ _)

/-- What is left of a list without its repetitions was in it. -/
theorem mem_of_mem_eraseDupsBy {same : α → α → Bool} {items : List α} {a : α} (h : a ∈ items.eraseDupsBy same) :
    a ∈ items := by
  match items with
  | [] => exact h
  | b :: rest =>
    rw [List.eraseDupsBy_cons] at h
    rcases List.mem_cons.1 h with h | h
    · exact h ▸ List.mem_cons_self
    · exact List.mem_cons_of_mem b (List.mem_filter.1 (mem_of_mem_eraseDupsBy h)).1
termination_by items.length
decreasing_by exact Nat.lt_succ_of_le (List.length_filter_le _ _)

/-! ## Adding records -/

namespace LinkedRecords

/-- Linked records have a key if one of them has it. -/
theorem contains_iff {s : LinkedRecords} {key : String × String} :
    s.contains key = true ↔ ∃ r ∈ s.records, r.key = key := by
  rw [contains, List.contains_iff_mem, List.mem_map]

/-- A record of a key that is there is dropped. -/
theorem insert_of_contains {s : LinkedRecords} {r : Record} (h : s.contains r.key = true) : s.insert r = s := by
  rw [insert, dif_pos h]

/-- A record of a new key goes to the end. -/
theorem records_insert {s : LinkedRecords} {r : Record} (h : s.contains r.key = false) :
    (s.insert r).records = s.records ++ [r] := by
  rw [insert, dif_neg (Bool.eq_false_iff.1 h)]

/-- Adding a record adds its key and no other. -/
theorem contains_insert (s : LinkedRecords) (r : Record) (key : String × String) :
    (s.insert r).contains key = (s.contains key || r.key == key) := by
  cases h : s.contains r.key with
  | true =>
    rw [insert_of_contains h]
    by_cases hk : r.key = key
    · subst hk
      rw [h, Bool.true_or]
    · rw [beq_eq_false_iff_ne.2 hk, Bool.or_false]
  | false =>
    rw [contains, records_insert h, List.map_append, List.contains_append]
    simp only [contains, List.map_cons, List.map_nil, List.contains_cons, List.contains_nil, Bool.or_false]
    rw [Bool.beq_comm]

@[simp] theorem insertAll_nil (s : LinkedRecords) : s.insertAll [] = s := rfl

@[simp] theorem insertAll_cons (s : LinkedRecords) (r : Record) (rest : List Record) :
    s.insertAll (r :: rest) = (s.insert r).insertAll rest := rfl

/-- Two lists are added one after the other. -/
theorem insertAll_append (s : LinkedRecords) (first more : List Record) :
    s.insertAll (first ++ more) = (s.insertAll first).insertAll more :=
  List.foldl_append

/-- Adding records adds their keys and no others. -/
theorem contains_insertAll (s : LinkedRecords) (records : List Record) (key : String × String) :
    (s.insertAll records).contains key = (s.contains key || records.any fun r => r.key == key) := by
  induction records generalizing s with
  | nil => rw [insertAll_nil, List.any_nil, Bool.or_false]
  | cons r rest ih => rw [insertAll_cons, ih, contains_insert, List.any_cons, Bool.or_assoc]

/-- A record that was added, or one of its key, is there. -/
theorem contains_insertAll_of_mem (s : LinkedRecords) {records : List Record} {r : Record} (h : r ∈ records) :
    (s.insertAll records).contains r.key = true := by
  rw [contains_insertAll, Bool.or_eq_true, List.any_eq_true]
  exact .inr ⟨r, h, beq_self_eq_true r.key⟩

/-- What is there was there before or was added. -/
theorem mem_records_insertAll {s : LinkedRecords} {records : List Record} {r : Record}
    (h : r ∈ (s.insertAll records).records) : r ∈ s.records ∨ r ∈ records := by
  induction records generalizing s with
  | nil => exact .inl h
  | cons r' rest ih =>
    rw [insertAll_cons] at h
    rcases ih h with h | h
    · cases hc : s.contains r'.key with
      | true =>
        rw [insert_of_contains hc] at h
        exact .inl h
      | false =>
        rw [records_insert hc] at h
        rcases List.mem_append.1 h with h | h
        · exact .inl h
        · exact .inr (List.mem_singleton.1 h ▸ List.mem_cons_self)
    · exact .inr (List.mem_cons_of_mem _ h)

/-- Adding records appends those whose keys are new, of each key the first. -/
theorem records_insertAll (s : LinkedRecords) (records : List Record) :
    (s.insertAll records).records =
      s.records ++ (records.filter fun r => !s.contains r.key).eraseDupsBy Record.sameKey := by
  induction records generalizing s with
  | nil => simp
  | cons r rest ih =>
    rw [insertAll_cons, ih]
    cases h : s.contains r.key with
    | true => rw [insert_of_contains h, List.filter_cons_of_neg (by simp [h])]
    | false =>
      rw [records_insert h, List.filter_cons_of_pos (by simp [h]), List.eraseDupsBy_cons, List.filter_filter,
        List.append_assoc, List.singleton_append]
      have hfilter : (fun x => !(s.insert r).contains x.key) =
          fun x => decide (Record.sameKey x r = false) && !s.contains x.key := by
        funext x
        rw [contains_insert, Bool.not_or, Bool.and_comm, Record.sameKey, Bool.beq_comm]
        cases x.key == r.key <;> rfl
      rw [hfilter]

/-- The linked records of a list are the first of each key, in the order in which they came. -/
theorem records_ofList (records : List Record) : (ofList records).records = records.eraseDupsBy Record.sameKey := by
  have all : records.filter (fun r => !empty.contains r.key) = records :=
    List.filter_eq_self.2 fun _ _ => rfl
  rw [ofList, records_insertAll, all]
  rfl

/-- Adding the records of a set to which more were added is adding its records and then these. -/
theorem insertAll_insertAll (s t : LinkedRecords) (records : List Record) :
    s.insertAll (t.insertAll records).records = (s.insertAll t.records).insertAll records := by
  induction records generalizing t with
  | nil => rfl
  | cons r rest ih =>
    rw [insertAll_cons, ih, insertAll_cons]
    congr 1
    cases h : t.contains r.key with
    | true =>
      obtain ⟨r', hr', hkey⟩ := contains_iff.1 h
      have hcontains : (s.insertAll t.records).contains r.key = true := hkey ▸ contains_insertAll_of_mem s hr'
      rw [insert_of_contains h, insert_of_contains hcontains]
    | false => rw [records_insert h, insertAll_append, insertAll_cons, insertAll_nil]

/-- Cutting records down to the first of each key before they are added makes no difference. -/
theorem insertAll_ofList (s : LinkedRecords) (records : List Record) :
    s.insertAll (ofList records).records = s.insertAll records :=
  insertAll_insertAll s empty records

/-- Neither does it for several lists of records that are added one after another. -/
theorem insertAll_flatMap_ofList (s : LinkedRecords) (f : α → List Record) (items : List α) :
    s.insertAll (items.flatMap fun a => (ofList (f a)).records) = s.insertAll (items.flatMap f) := by
  induction items generalizing s with
  | nil => rfl
  | cons a rest ih =>
    rw [List.flatMap_cons, List.flatMap_cons, insertAll_append, insertAll_append, insertAll_ofList, ih]

/-- Lists of records that were cut down each for itself are joined as they were before. -/
theorem eraseDupsBy_flatMap (f : α → List Record) (items : List α) :
    (items.flatMap fun a => (f a).eraseDupsBy Record.sameKey).eraseDupsBy Record.sameKey =
      (items.flatMap f).eraseDupsBy Record.sameKey := by
  have joined : (ofList (items.flatMap fun a => (ofList (f a)).records)).records = (ofList (items.flatMap f)).records :=
    congrArg records (insertAll_flatMap_ofList empty f items)
  simp only [records_ofList] at joined
  exact joined

/-- Records that are added list by list. -/
theorem foldl_insertAll (f : α → List Record) (items : List α) (set : LinkedRecords) :
    items.foldl (fun set a => set.insertAll (f a)) set = set.insertAll (items.flatMap f) := by
  induction items generalizing set with
  | nil => rfl
  | cons a rest ih => rw [List.foldl_cons, ih, List.flatMap_cons, insertAll_append]

end LinkedRecords

end ResourceApi

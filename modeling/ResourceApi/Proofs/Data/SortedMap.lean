import ResourceApi.Data.SortedMap

/-!
# What maps hold

A map made of a list of entries keeps, of each name, the last value; where the names are distinct it holds every entry.
The entries of a map have distinct names, so what is found under a name is the one entry of it
(`SortedMap.get?_eq_some_iff`), and taking a name out leaves nothing under it (`SortedMap.get?_erase`).
-/

namespace ResourceApi

variable {α β : Type}

namespace Entries

/-- What is found is one of the entries. -/
theorem mem_of_find? {entries : List (String × α)} {name : String} {value : α} (h : find? name entries = some value) :
    (name, value) ∈ entries := by
  induction entries with
  | nil => cases h
  | cons p rest ih =>
    obtain ⟨other, first⟩ := p
    simp only [find?] at h
    split at h
    · next same =>
      obtain rfl : first = value := Option.some.inj h
      exact same ▸ List.mem_cons_self
    · exact List.mem_cons_of_mem _ (ih h)

/-- A name before all names of a list is not among them. -/
theorem find?_eq_none_of_before {entries : List (String × α)} {name : String}
    (h : ∀ p ∈ entries, Text.before name p.1 = true) : find? name entries = none := by
  cases found : find? name entries with
  | none => rfl
  | some value => exact absurd rfl (Text.ne_of_before (h _ (mem_of_find? found)))

/-- What is found in the first entries goes before what is found in the later ones. -/
theorem find?_append (name : String) (first later : List (String × α)) :
    find? name (first ++ later) = (find? name first).or (find? name later) := by
  induction first with
  | nil => rfl
  | cons p rest ih =>
    simp only [List.cons_append, find?, ih]
    split <;> rfl

/-- Of entries with distinct names each is found. -/
theorem find?_of_mem {entries : List (String × α)} (distinct : (entries.map Prod.fst).Nodup) {name : String} {value : α}
    (h : (name, value) ∈ entries) : find? name entries = some value := by
  induction entries with
  | nil => cases h
  | cons p rest ih =>
    obtain ⟨other, first⟩ := p
    obtain ⟨hfirst, hrest⟩ := List.nodup_cons.1 distinct
    rcases List.mem_cons.1 h with same | later
    · cases same
      exact if_pos rfl
    · have different : name ≠ other := by
        rintro rfl
        exact hfirst (List.mem_map.2 ⟨_, later, rfl⟩)
      exact (if_neg different).trans (ih hrest later)

/-- Entries in increasing order have distinct names. -/
theorem Sorted.nodup_names {entries : List (String × α)} (sorted : Sorted entries) : (entries.map Prod.fst).Nodup :=
  List.pairwise_map.2 (sorted.imp Text.ne_of_before)

/-- Of entries in increasing order each is found. -/
theorem Sorted.find?_of_mem {entries : List (String × α)} (sorted : Sorted entries) {name : String} {value : α}
    (h : (name, value) ∈ entries) : find? name entries = some value :=
  Entries.find?_of_mem sorted.nodup_names h

/-- When a name is taken out of entries in increasing order, nothing is found under it, and the others stay. -/
theorem Sorted.find?_erase {entries : List (String × α)} (sorted : Sorted entries) (name other : String) :
    find? other (Entries.erase name entries) = if other = name then none else find? other entries := by
  induction entries with
  | nil => simp [Entries.erase, find?]
  | cons p rest ih =>
    obtain ⟨first, value⟩ := p
    obtain ⟨hfirst, hrest⟩ := List.pairwise_cons.1 sorted
    simp only [Entries.erase]
    split
    · next same =>
      subst same
      by_cases h : other = name
      · subst h
        rw [if_pos rfl, find?_eq_none_of_before hfirst]
      · simp only [find?, if_neg h]
    · next different =>
      simp only [find?, ih hrest]
      by_cases h : other = first
      · subst h
        simp [Ne.symm different]
      · simp [h]

/-- Nothing is found under a name that stands before the first. -/
theorem Sorted.find?_eq_none_of_before_first {p : String × α} {rest : List (String × α)} (sorted : Sorted (p :: rest))
    {name : String} (h : Text.before name p.1 = true) : find? name (p :: rest) = none := by
  refine find?_eq_none_of_before fun q among => ?_
  rcases List.mem_cons.1 among with rfl | later
  · exact h
  · exact Text.before_trans h ((List.pairwise_cons.1 sorted).1 q later)

/-- Entries in the order of their names are known from what is found under the names. -/
theorem Sorted.eq_of_find? {a b : List (String × α)} (sorted : Sorted a) (sorted' : Sorted b)
    (h : ∀ name, find? name a = find? name b) : a = b := by
  induction a generalizing b with
  | nil =>
    cases b with
    | nil => rfl
    | cons q rest => exact absurd (h q.1) (by simp [find?])
  | cons p rest ih =>
    cases b with
    | nil => exact absurd (h p.1) (by simp [find?])
    | cons q rest' =>
      obtain ⟨first, later⟩ := List.pairwise_cons.1 sorted
      obtain ⟨first', later'⟩ := List.pairwise_cons.1 sorted'
      -- Of two different first names the lesser would be found in one of the lists only.
      rcases Text.before_trichotomy p.1 q.1 with before | same | before
      · have none := h p.1
        rw [sorted'.find?_eq_none_of_before_first before] at none
        exact absurd none (by simp [find?])
      · obtain ⟨name, value⟩ := p
        obtain ⟨_, value'⟩ := q
        cases same
        obtain rfl : value = value' := by simpa [find?] using h name
        refine congrArg _ (ih later later' fun other => ?_)
        by_cases same : other = name
        · rw [same, find?_eq_none_of_before first, find?_eq_none_of_before first']
        · simpa [find?, same] using h other
      · have none := h q.1
        rw [sorted.find?_eq_none_of_before_first before] at none
        exact absurd none (by simp [find?])

theorem map_insert (f : α → β) (entries : List (String × α)) (name : String) (value : α) :
    (insert name value entries).map (fun p => (p.1, f p.2)) = insert name (f value) (entries.map fun p => (p.1, f p.2)) := by
  induction entries with
  | nil => rfl
  | cons p rest ih =>
    simp only [insert, List.map_cons]
    split
    · rfl
    · split
      · rfl
      · rw [List.map_cons, ih]

end Entries

namespace SortedMap

/-- Putting in entries of other names leaves the value under a name as it is. -/
theorem get?_foldl_insert_of_notMem {entries : List (String × α)} {name : String}
    (h : name ∉ entries.map Prod.fst) (m : SortedMap α) :
    (entries.foldl (fun m p => m.insert p.1 p.2) m).get? name = m.get? name := by
  induction entries generalizing m with
  | nil => rfl
  | cons p rest ih =>
    rw [List.map_cons, List.mem_cons, not_or] at h
    rw [List.foldl_cons, ih h.2, get?_insert, if_neg h.1]

/-- Putting in entries with distinct names puts each of them there. -/
theorem get?_foldl_insert_of_mem {entries : List (String × α)} (distinct : (entries.map Prod.fst).Nodup) {name : String}
    {value : α} (h : (name, value) ∈ entries) (m : SortedMap α) :
    (entries.foldl (fun m p => m.insert p.1 p.2) m).get? name = some value := by
  obtain ⟨before, after, rfl⟩ := List.append_of_mem h
  rw [List.map_append, List.map_cons] at distinct
  have hafter : name ∉ after.map Prod.fst := (List.nodup_cons.1 (List.nodup_append.1 distinct).2.1).1
  rw [List.foldl_append, List.foldl_cons, get?_foldl_insert_of_notMem hafter, get?_insert, if_pos rfl]

/-- A map made of entries with distinct names holds each of them. -/
theorem get?_ofList_of_mem {entries : List (String × α)} (distinct : (entries.map Prod.fst).Nodup) {name : String}
    {value : α} (h : (name, value) ∈ entries) : (ofList entries).get? name = some value :=
  get?_foldl_insert_of_mem distinct h empty

/-- What a map made of entries holds is one of them. -/
theorem mem_of_get?_ofList {entries : List (String × α)} (distinct : (entries.map Prod.fst).Nodup) {name : String}
    {value : α} (h : (ofList entries).get? name = some value) : (name, value) ∈ entries := by
  by_cases held : name ∈ entries.map Prod.fst
  · obtain ⟨⟨_, own⟩, among, rfl⟩ := List.mem_map.1 held
    rw [get?_ofList_of_mem distinct among] at h
    exact Option.some.inj h ▸ among
  · have nothing : (ofList entries).get? name = none := get?_foldl_insert_of_notMem held empty
    rw [nothing] at h
    cases h

/-- A map holds its entries and nothing else. -/
theorem get?_eq_some_iff {m : SortedMap α} {name : String} {value : α} :
    m.get? name = some value ↔ (name, value) ∈ m.entries :=
  ⟨Entries.mem_of_find?, m.sorted.find?_of_mem⟩

/-- A map is known from what it holds. -/
theorem eq_of_get? {m m' : SortedMap α} (h : ∀ name, m.get? name = m'.get? name) : m = m' :=
  ext (m.sorted.eq_of_find? m'.sorted h)

/-- When a name is taken out, nothing is held under it, and the others stay. -/
theorem get?_erase (m : SortedMap α) (name other : String) :
    (m.erase name).get? other = if other = name then none else m.get? other :=
  m.sorted.find?_erase name other

section

variable {m : SortedMap α} {kind : String → α → Prop} (all : ∀ name value, m.get? name = some value → kind name value)

include all

/-- What holds of all that a map holds still does when something is put in of which it holds. -/
theorem forall_get?_insert {name : String} {value : α} (new : kind name value) :
    ∀ other found, (m.insert name value).get? other = some found → kind other found := by
  intro other found h
  rw [get?_insert] at h
  split at h
  · next same =>
    cases h
    exact same ▸ new
  · exact all other found h

/-- What holds of all that a map holds still does when a name is taken out. -/
theorem forall_get?_erase (name : String) :
    ∀ other found, (m.erase name).get? other = some found → kind other found := by
  intro other found h
  rw [get?_erase] at h
  split at h
  · cases h
  · exact all other found h

end

/-- The values of a map are what it holds under its names. -/
theorem mem_values_iff {m : SortedMap α} {value : α} : value ∈ m.values ↔ ∃ name, m.get? name = some value := by
  constructor
  · intro h
    obtain ⟨⟨name, _⟩, hentry, rfl⟩ := List.mem_map.1 h
    exact ⟨name, get?_eq_some_iff.2 hentry⟩
  · rintro ⟨name, h⟩
    exact List.mem_map.2 ⟨(name, value), get?_eq_some_iff.1 h, rfl⟩

theorem nodup_names (m : SortedMap α) : m.names.Nodup :=
  m.sorted.nodup_names

/-- The names of a map made of entries with distinct names are the names of the entries, in another order. -/
theorem perm_names_ofList {entries : List (String × α)} (distinct : (entries.map Prod.fst).Nodup) :
    (ofList entries).names.Perm (entries.map Prod.fst) := by
  rw [List.perm_ext_iff_of_nodup (nodup_names _) distinct]
  intro name
  constructor
  · intro h
    obtain ⟨⟨_, value⟩, held, rfl⟩ := List.mem_map.1 h
    exact List.mem_map_of_mem (mem_of_get?_ofList distinct (get?_eq_some_iff.2 held))
  · intro h
    obtain ⟨⟨_, value⟩, among, rfl⟩ := List.mem_map.1 h
    exact List.mem_map_of_mem (get?_eq_some_iff.1 (get?_ofList_of_mem distinct among))

/-- Putting in all entries of a map goes over what was there. -/
theorem get?_foldl_insert (m other : SortedMap α) (name : String) :
    (other.entries.foldl (fun m p => m.insert p.1 p.2) m).get? name = (other.get? name).or (m.get? name) := by
  cases h : other.get? name with
  | none =>
    refine get?_foldl_insert_of_notMem (fun held => ?_) m
    obtain ⟨⟨_, value⟩, hentry, rfl⟩ := List.mem_map.1 held
    rw [get?_eq_some_iff.2 hentry] at h
    cases h
  | some value =>
    rw [get?_foldl_insert_of_mem other.nodup_names (get?_eq_some_iff.1 h)]
    rfl

/-! ## Changing values -/

/-- Change every value, and leave the names as they are. -/
def map (f : α → β) (m : SortedMap α) : SortedMap β where
  entries := m.entries.map fun p => (p.1, f p.2)
  sorted := by
    unfold Entries.Sorted
    rw [List.pairwise_map]
    exact m.sorted

theorem map_insert (f : α → β) (m : SortedMap α) (name : String) (value : α) :
    (m.insert name value).map f = (m.map f).insert name (f value) :=
  ext (Entries.map_insert f m.entries name value)

/-- The values of a map may be changed before it is made. -/
theorem map_ofList (f : α → β) (entries : List (String × α)) :
    (ofList entries).map f = ofList (entries.map fun p => (p.1, f p.2)) := by
  have onto (m : SortedMap α) : (entries.foldl (fun m p => m.insert p.1 p.2) m).map f =
      (entries.map fun p => (p.1, f p.2)).foldl (fun m p => m.insert p.1 p.2) (m.map f) := by
    induction entries generalizing m with
    | nil => rfl
    | cons p rest ih => rw [List.foldl_cons, ih, map_insert, List.map_cons, List.foldl_cons]
  exact onto empty

end SortedMap

end ResourceApi

import ResourceApi.Text.Order

/-!
# Maps from names, listed in name order

A map is the list of its entries with the names in strictly increasing code point order, so two maps with the same
entries are equal. The list operations come first, because the members of a JSON object are such a list without
the proof; `SortedMap` adds the proof and is what the rest of the library uses.
-/

namespace ResourceApi

namespace Entries

variable {α β : Type}

/-- The names strictly increase. -/
def Sorted (entries : List (String × α)) : Prop :=
  entries.Pairwise fun p q => Text.before p.1 q.1 = true

/-- The value under a name. -/
def find? (name : String) : List (String × α) → Option α
  | [] => none
  | (other, value) :: rest => if name = other then some value else find? name rest

/-- Put a value under a name: in its place in the order, over any value the name had. -/
def insert (name : String) (value : α) : List (String × α) → List (String × α)
  | [] => [(name, value)]
  | (other, old) :: rest =>
    if name = other then (name, value) :: rest
    else if Text.before name other then (name, value) :: (other, old) :: rest
    else (other, old) :: insert name value rest

/-- Take a name out. -/
def erase (name : String) : List (String × α) → List (String × α)
  | [] => []
  | (other, value) :: rest => if name = other then rest else (other, value) :: erase name rest

theorem mem_insert {name : String} {value : α} {entries : List (String × α)} {p : String × α}
    (h : p ∈ insert name value entries) : p = (name, value) ∨ p ∈ entries := by
  induction entries with
  | nil => simpa [insert] using h
  | cons q rest ih =>
    obtain ⟨other, old⟩ := q
    simp only [insert] at h
    split at h
    · rcases List.mem_cons.1 h with h | h
      · exact .inl h
      · exact .inr (List.mem_cons_of_mem _ h)
    · split at h
      · exact List.mem_cons.1 h
      · rcases List.mem_cons.1 h with h | h
        · exact .inr (h ▸ List.mem_cons_self)
        · exact (ih h).imp_right (List.mem_cons_of_mem _)

theorem Sorted.insert {name : String} {value : α} {entries : List (String × α)} (h : Sorted entries) :
    Sorted (Entries.insert name value entries) := by
  induction entries with
  | nil => exact List.pairwise_singleton _ _
  | cons q rest ih =>
    obtain ⟨other, old⟩ := q
    obtain ⟨hfirst, hrest⟩ := List.pairwise_cons.1 h
    simp only [Entries.insert]
    split
    · next heq =>
      subst heq
      exact List.pairwise_cons.2 ⟨hfirst, hrest⟩
    · next hne =>
      split
      · next hlt =>
        refine List.pairwise_cons.2 ⟨fun p hp => ?_, h⟩
        rcases List.mem_cons.1 hp with rfl | hp
        · exact hlt
        · exact Text.before_trans hlt (hfirst p hp)
      · next hnlt =>
        refine List.pairwise_cons.2 ⟨fun p hp => ?_, ih hrest⟩
        rcases mem_insert hp with rfl | hp
        · rcases Text.before_trichotomy name other with h' | h' | h'
          · exact absurd h' hnlt
          · exact absurd h' hne
          · exact h'
        · exact hfirst p hp

theorem erase_sublist (name : String) (entries : List (String × α)) : (erase name entries).Sublist entries := by
  induction entries with
  | nil => exact .slnil
  | cons q rest ih =>
    simp only [erase]
    split
    · exact List.sublist_cons_self _ _
    · exact ih.cons_cons _

theorem Sorted.erase {name : String} {entries : List (String × α)} (h : Sorted entries) :
    Sorted (Entries.erase name entries) :=
  List.Pairwise.sublist (erase_sublist name entries) h

theorem find?_insert (name other : String) (value : α) (entries : List (String × α)) :
    find? other (insert name value entries) = if other = name then some value else find? other entries := by
  induction entries with
  | nil => simp [insert, find?]
  | cons q rest ih =>
    obtain ⟨first, old⟩ := q
    simp only [insert]
    split
    · next heq =>
      subst heq
      simp only [find?]
      split <;> rfl
    · next hne =>
      split
      · simp only [find?]
      · simp only [find?, ih]
        by_cases h : other = first
        · subst h
          simp [Ne.symm hne]
        · simp [h]

end Entries

/-- A map from names, as its entries in increasing name order. -/
structure SortedMap (α : Type) where
  /-- The entries. -/
  entries : List (String × α)
  /-- The names strictly increase. -/
  sorted : Entries.Sorted entries := by exact List.Pairwise.nil

namespace SortedMap

variable {α β : Type}

theorem ext {a b : SortedMap α} (h : a.entries = b.entries) : a = b := by
  cases a
  cases b
  simp_all

/-- The map without entries. -/
def empty : SortedMap α where
  entries := []

instance : EmptyCollection (SortedMap α) := ⟨empty⟩

instance : Inhabited (SortedMap α) := ⟨empty⟩

/-- The value under a name. -/
def get? (m : SortedMap α) (name : String) : Option α :=
  Entries.find? name m.entries

/-- Whether a name has a value. -/
def contains (m : SortedMap α) (name : String) : Bool :=
  (m.get? name).isSome

/-- Put a value under a name, over any value it had. -/
def insert (m : SortedMap α) (name : String) (value : α) : SortedMap α where
  entries := Entries.insert name value m.entries
  sorted := m.sorted.insert

/-- Take a name out. -/
def erase (m : SortedMap α) (name : String) : SortedMap α where
  entries := Entries.erase name m.entries
  sorted := m.sorted.erase

/-- The map of a list of entries; of two for one name the later counts. -/
def ofList (entries : List (String × α)) : SortedMap α :=
  entries.foldl (fun m p => m.insert p.1 p.2) empty

/-- The names in increasing order. -/
def names (m : SortedMap α) : List String :=
  m.entries.map Prod.fst

/-- The values, in the order of their names. -/
def values (m : SortedMap α) : List α :=
  m.entries.map Prod.snd

/-- The number of entries. -/
def size (m : SortedMap α) : Nat :=
  m.entries.length

@[simp] theorem get?_empty (name : String) : (empty : SortedMap α).get? name = none := rfl

theorem get?_insert (m : SortedMap α) (name other : String) (value : α) :
    (m.insert name value).get? other = if other = name then some value else m.get? other :=
  Entries.find?_insert name other value m.entries

end SortedMap

end ResourceApi

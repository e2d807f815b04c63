import Mathlib.Data.List.Basic

/-!
# Items with distinct names

Of items with distinct names the one that has a name is found under it, from whichever end the items are gone through
(`find?_of_nodup`, `findRev?_of_nodup`), and also among those items that are kept of them (`find?_filter_of_nodup`). So such
items are known from their names, in order, and from what is found under each name (`filterMap_find?_of_nodup`).
-/

namespace ResourceApi

variable {β : Type} {name : β → String} {items : List β}

/-- Where names are distinct, every item is found by its name. -/
theorem find?_of_nodup (distinct : (items.map name).Nodup) {b : β} (h : b ∈ items) :
    items.find? (fun other => name other == name b) = some b := by
  induction items with
  | nil => cases h
  | cons first rest ih =>
    obtain ⟨fresh, distinct⟩ := List.nodup_cons.1 distinct
    rcases List.mem_cons.1 h with rfl | later
    · exact List.find?_cons_of_pos (beq_self_eq_true (name b))
    · have different : name first ≠ name b := fun same => fresh (same ▸ List.mem_map_of_mem later)
      exact (List.find?_cons_of_neg (by simpa using different)).trans (ih distinct later)

/-- Where names are distinct, what is found under a name is the one item of the name. -/
theorem find?_eq_some_iff_of_nodup (distinct : (items.map name).Nodup) {key : String} {b : β} :
    items.find? (fun item => name item == key) = some b ↔ b ∈ items ∧ name b = key := by
  constructor
  · intro found
    have named := List.find?_some found
    exact ⟨List.mem_of_find?_eq_some found, eq_of_beq named⟩
  · rintro ⟨among, rfl⟩
    exact find?_of_nodup distinct among

/-- Where names are distinct, the last item of a name is the first. -/
theorem findRev?_of_nodup (distinct : (items.map name).Nodup) (key : String) :
    items.findRev? (fun item => name item == key) = items.find? fun item => name item == key := by
  have reversed : (items.reverse.map name).Nodup := by
    rw [List.map_reverse]
    exact (List.reverse_perm _).nodup_iff.2 distinct
  ext b
  rw [List.findRev?_eq_find?_reverse, find?_eq_some_iff_of_nodup reversed, find?_eq_some_iff_of_nodup distinct,
    List.mem_reverse]

/-- Where names are distinct, an item that is left out leaves nothing under its name. -/
theorem find?_filter_of_nodup (distinct : (items.map name).Nodup) (kept : β → Bool) (key : String) :
    (items.filter kept).find? (fun item => name item == key) = (items.find? fun item => name item == key).filter kept := by
  have distinct' : ((items.filter kept).map name).Nodup := distinct.sublist (List.filter_sublist.map name)
  ext b
  rw [find?_eq_some_iff_of_nodup distinct', Option.filter_eq_some_iff, find?_eq_some_iff_of_nodup distinct,
    List.mem_filter, and_right_comm]

/-- Where names are distinct, looking up all of them in order gives all items back. -/
theorem filterMap_find?_of_nodup (distinct : (items.map name).Nodup) :
    (items.map name).filterMap (fun key => items.find? fun item => name item == key) = items := by
  rw [List.filterMap_map]
  exact (List.filterMap_congr fun b among => find?_of_nodup distinct among).trans List.filterMap_some

/-! ## Each name once -/

/-- Names that are distinct are all kept. -/
theorem eraseDups_of_nodup {names : List String} (distinct : names.Nodup) : names.eraseDups = names := by
  induction names with
  | nil => rfl
  | cons first rest ih =>
    obtain ⟨fresh, distinct⟩ := List.nodup_cons.1 distinct
    have others : rest.filter (fun name => !name == first) = rest := by
      refine List.filter_eq_self.2 fun name later => ?_
      have different : name ≠ first := fun same => fresh (same ▸ later)
      simpa using different
    rw [List.eraseDups_cons, others, ih distinct]

/-- Another name counts if it is new. -/
theorem eraseDups_concat (names : List String) (name : String) :
    (names ++ [name]).eraseDups = if name ∈ names then names.eraseDups else names.eraseDups ++ [name] := by
  have alone : [name].eraseDups = [name] := rfl
  by_cases held : name ∈ names <;> simp [List.eraseDups_append, List.removeAll, held, alone]

end ResourceApi

import ResourceApi.Proofs.Route.Addresses
import ResourceApi.Proofs.Route.Grammar
import ResourceApi.Proofs.Text.Escaped

/-!
# Paths with everything escaped

A client that does not know which characters may stand in a path escapes every byte of the type and of the ids
(`Path.escaped`). Slashes do no harm then, since a path is cut at slashes before it is decoded. But a segment is cut at commas
only after it was decoded, so a comma in an id counts as if it had stood between two ids. The path leads back to the ids if and
only if none of them holds a comma (`escaped_ids_lead_back_iff`); with an id that holds one it leads to other ids or to none
(`escaped_commas_separate`).
-/

namespace ResourceApi

/-- The path of some entities of a type, in which every byte of the type and of the ids is escaped. -/
def Path.escaped (type : String) (ids : List String) : String :=
  "/" ++ Percent.encode type ++ "/" ++ Text.join "," (ids.map Percent.encode)

/-- A request is routed to the entities of a type that have these ids. -/
def Mount.RoutesTo (m : Mount) (incoming : Incoming) (type : String) (ids : List String) : Prop :=
  ∃ request, m.route incoming = .ok (.element, request) ∧ request.resource = type ∧ request.ids = ids

namespace Path

theorem slash_notMem_encode (s : String) : '/' ∉ (Percent.encode s).toList := by
  intro held
  rcases Percent.of_mem_encode held with h | h <;> revert h <;> decide

/-- An escaped text is one segment, which is the text. -/
theorem segments_encode {s : String} (nonempty : s ≠ "") : segments (Percent.encode s) = [s] := by
  rw [segments_of_notMem (slash_notMem_encode s) (Percent.encode_ne_empty nonempty), Percent.decode_encode]

/-- Escaped texts that are joined by commas are one segment, in which the texts stand between commas. -/
theorem segments_join_encode {texts : List String} (some : texts ≠ []) (nonempty : ∀ text ∈ texts, text ≠ "") :
    segments (Text.join "," (texts.map Percent.encode)) = [Text.join "," texts] := by
  obtain ⟨first, rest, rfl⟩ := List.exists_cons_of_ne_nil some
  have whole : '/' ∉ (Text.join "," ((first :: rest).map Percent.encode)).toList := by
    intro held
    rcases Text.mem_toList_join held with comma | ⟨part, among, own⟩
    · exact absurd comma (by decide)
    · obtain ⟨text, -, rfl⟩ := List.mem_map.1 among
      exact slash_notMem_encode text own
  have begins : Percent.encode first ≠ "" := Percent.encode_ne_empty (nonempty first List.mem_cons_self)
  have back : Percent.decode (Text.join "," ((first :: rest).map Percent.encode)) = Text.join "," (first :: rest) :=
    Percent.decode_join_encode ',' (by decide) (first :: rest)
  rw [segments_of_notMem whole (Text.join_ne_empty begins _), back]

/-- An escaped path names the type, and the ids as they stand between commas. -/
theorem segments_escaped {type : String} {ids : List String} (named : type ≠ "") (some : ids ≠ [])
    (nonempty : ∀ id ∈ ids, id ≠ "") : segments (escaped type ids) = [type, Text.join "," ids] := by
  unfold escaped
  rw [segments_append, segments_slash_append, segments_encode named, segments_join_encode some nonempty]
  rfl

end Path

namespace Mount

/-- Ids that stand between commas are cut at these and at their own commas. -/
theorem idsOf_join (ids : List String) : idsOf (Text.join "," ids) = ids.flatMap idsOf :=
  Text.splitNonEmpty_join ids

/-- Cutting at commas leaves ids as they are if and only if none of them holds a comma. -/
theorem flatMap_idsOf_eq_iff {ids : List String} (nonempty : ∀ id ∈ ids, id ≠ "") :
    ids.flatMap idsOf = ids ↔ ∀ id ∈ ids, ',' ∉ id.toList := by
  constructor
  · intro same id among
    rw [← same] at among
    obtain ⟨whole, -, among⟩ := List.mem_flatMap.1 among
    exact Text.notMem_of_mem_splitNonEmpty among
  · intro single
    induction ids with
    | nil => rfl
    | cons first rest ih =>
      rw [List.forall_mem_cons] at nonempty single
      rw [List.flatMap_cons, idsOf_of_notMem single.1 nonempty.1, ih nonempty.2 single.2, List.singleton_append]

/-- Two segments at the root lead to the ids that the second one lists, if it lists any. -/
theorem root_routesTo_iff {incoming : Incoming} {type segment : String} (arrives : incoming.segments = [type, segment])
    {ids : List String} : root.RoutesTo incoming type ids ↔ ids = idsOf segment ∧ ids ≠ [] := by
  constructor
  · rintro ⟨request, routed, -, rfl⟩
    obtain ⟨rest, path, form⟩ := (route_eq_ok_iff.1 routed).path
    obtain rfl : [type, segment] = rest := arrives.symm.trans path
    generalize request.resource = resource, request.ids = ids, request.relation = relation at form
    cases form with
    | element lists some => exact ⟨(lists_iff.1 lists).symm, some⟩
  · rintro ⟨rfl, some⟩
    exact ⟨_, route_eq_of_parts arrives (parts?_element some), rfl, rfl⟩

section Escaped

variable {type : String} {ids : List String} (named : type ≠ "") (some : ids ≠ []) (nonempty : ∀ id ∈ ids, id ≠ "")
  {incoming : Incoming} (arrives : incoming.segments = Path.segments (Path.escaped type ids))

include named some nonempty arrives

/-- An escaped path leads to the parts of the ids between commas, if there are any. -/
theorem routesTo_escaped_iff {found : List String} :
    root.RoutesTo incoming type found ↔ found = ids.flatMap idsOf ∧ found ≠ [] := by
  rw [Path.segments_escaped named some nonempty] at arrives
  rw [← idsOf_join]
  exact root_routesTo_iff arrives

end Escaped

end Mount

/-- The path in which the type and some ids are escaped leads to the entities of the type whose ids are the parts of these ids
between commas, if there are any. So it leads back to the ids if and only if none of them holds a comma. -/
theorem escaped_ids_lead_back_iff {type : String} {ids : List String} (named : type ≠ "") (some : ids ≠ [])
    (nonempty : ∀ id ∈ ids, id ≠ "") {incoming : Incoming}
    (arrives : incoming.segments = Path.segments (Path.escaped type ids)) :
    (Mount.root.RoutesTo incoming type ids ↔ ∀ id ∈ ids, ',' ∉ id.toList) ∧
      ∀ found, Mount.root.RoutesTo incoming type found ↔
        found = ids.flatMap (Text.splitNonEmpty ',') ∧ found ≠ [] := by
  refine ⟨?_, fun found => Mount.routesTo_escaped_iff named some nonempty arrives⟩
  rw [Mount.routesTo_escaped_iff named some nonempty arrives, ← Mount.flatMap_idsOf_eq_iff nonempty, eq_comm]
  exact and_iff_left some

/-- Ids that look like paths, escapes and lists of something else are found again, in their order and as often as they are
named. -/
theorem odd_ids_lead_back :
    let ids := ["a/b", "%2C", "50% é", "a/b"]
    let incoming : Incoming := ⟨.get, Path.segments (Path.escaped "straße" ids), .empty, .empty, []⟩
    (∀ id ∈ ids, ',' ∉ id.toList) ∧ Mount.root.RoutesTo incoming "straße" ids := by
  intro ids incoming
  have single : ∀ id ∈ ids, ',' ∉ id.toList := by decide +kernel
  have arrives : incoming.segments = Path.segments (Path.escaped "straße" ids) := rfl
  obtain ⟨leads, -⟩ := escaped_ids_lead_back_iff (by decide) (List.cons_ne_nil _ _) (by decide) arrives
  exact ⟨single, leads.2 single⟩

/-- A request to read what lies on the escaped path of one post. -/
def Incoming.toPost (id : String) : Incoming :=
  ⟨.get, Path.segments (Path.escaped "posts" [id]), .empty, .empty, []⟩

/-- The escaped path of an id with a comma leads to two other ids and not to this one, and the escaped path of a comma leads to
no ids at all. -/
theorem escaped_commas_separate :
    ¬Mount.root.RoutesTo (.toPost "a,b") "posts" ["a,b"] ∧ Mount.root.RoutesTo (.toPost "a,b") "posts" ["a", "b"] ∧
      ∀ ids, ¬Mount.root.RoutesTo (.toPost ",") "posts" ids := by
  have leads {id : String} (nonempty : id ≠ "") {found : List String} :
      Mount.root.RoutesTo (.toPost id) "posts" found ↔ found = [id].flatMap Mount.idsOf ∧ found ≠ [] := by
    have arrives : (Incoming.toPost id).segments = Path.segments (Path.escaped "posts" [id]) := by
      rw [Incoming.toPost]
    exact Mount.routesTo_escaped_iff (by decide) (List.cons_ne_nil _ _) (by simpa using nonempty) arrives
  have pair : ["a,b"].flatMap Mount.idsOf = ["a", "b"] := by decide
  have none : [","].flatMap Mount.idsOf = [] := by decide
  refine ⟨fun whole => ?_, (leads (by decide)).2 ⟨pair.symm, by decide⟩, fun ids led => ?_⟩
  · have cut := ((leads (by decide)).1 whole).1
    rw [pair] at cut
    exact absurd cut (by decide)
  · obtain ⟨same, some⟩ := (leads (by decide)).1 led
    exact some (same.trans none)

end ResourceApi

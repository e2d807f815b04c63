import ResourceApi.Proofs.Document.Collecting
import ResourceApi.Proofs.Document.Report
import ResourceApi.Proofs.Document.Showing
import ResourceApi.Proofs.Registry.Table

/-!
# Links are complete

The links of a record are put together relation by relation, with or without a set that what they lead to goes into
(`linksWith`). Whatever the data sources answer, there is one link for each relation of the schema and no other, and each
tells what is known of its relation from the record alone (`links_complete`); only the ids in a link to many depend on the
answers. Against a steady registry the set makes no difference to the links, whatever it holds and whether there is one.
-/

namespace ResourceApi

variable {σ α γ : Type}

/-- What is kept, if there is something to keep it in. -/
theorem foldl_map_option (keep : γ → α → γ) (items : List α) (c : Option γ) :
    items.foldl (fun c a => c.map fun c => keep c a) c = c.map fun c => items.foldl keep c := by
  induction items generalizing c with
  | nil => simp
  | cons a rest ih =>
    rw [List.foldl_cons, ih]
    cases c with
    | none => rfl
    | some c => rfl

/-- A link tells of a relation of a record the type and the path, and for a relation to one the id that the key holds, if
it holds one, and for a relation to many some ids. -/
structure Link.Describes (link : Link) (base : String) (owner : Record) (field : Field) : Prop where
  type : field.target? = some link.type
  resource : link.resource = base ++ "/" ++ owner.schema.typeName ++ "/" ++ owner.entity.id ++ "/" ++ field.name
  toOne : ∀ key, field.key? = some key →
    link.ids = none ∧ ∀ id, link.id = some id ↔ owner.entity.get? key = some (.str id) ∧ id ≠ ""
  toMany : field.key? = none → link.id = none ∧ ∃ ids, link.ids = some ids

/-- A key holds an id if a text that is not empty stands under it. -/
theorem Entity.reference?_eq_some_iff {e : Entity} {key id : String} :
    e.reference? key = some id ↔ e.get? key = some (.str id) ∧ id ≠ "" := by
  unfold reference? text?
  rw [Option.filter_eq_some_iff, Option.bind_eq_some_iff]
  constructor
  · rintro ⟨⟨value, held, text⟩, filled⟩
    cases value with
    | str own =>
      obtain rfl : own = id := Option.some.inj text
      exact ⟨held, by simpa using filled⟩
    | _ => cases text
  · rintro ⟨held, filled⟩
    exact ⟨⟨.str id, held, rfl⟩, by simpa using filled⟩

namespace Viewpoint

variable (v : Viewpoint) (owner : Record)

/-- Look up a field of a record, with or without a set for what it leads to. -/
def lookupWith (field : Field) (set : Option LinkedRecords) : Plan (Option Lookup × Option LinkedRecords) := do
  let found ← v.lookup owner set.isSome field
  return (found, set.map fun set => set.insertAll (Lookup.records found.toList))

/-- The links of a record, made with or without a set that is handed from relation to relation for what they lead to. -/
def linksWith (set : Option LinkedRecords) : Plan (Links × Option LinkedRecords) := do
  let (found, set) ← Plan.thread (v.lookupWith owner) owner.schema.relations set
  return (Lookup.links (found.filterMap id), set)

/-- Whether there is a set is all that counts for what is looked up. -/
theorem linksWith_eq_lookups (set : Option LinkedRecords) :
    v.linksWith owner set =
      (fun lookups => (Lookup.links lookups, set.map fun set => set.insertAll (Lookup.records lookups))) <$>
        v.lookups owner set.isSome := by
  let keep (set : Option LinkedRecords) (found : Option Lookup) : Option LinkedRecords :=
    set.map fun set => set.insertAll (Lookup.records found.toList)
  have step : ∀ field held, held.isSome = set.isSome →
      v.lookupWith owner field held = do
        let found ← v.lookup owner set.isSome field
        return (id found, keep held found) := by
    intro field held same
    rw [lookupWith, same]
    rfl
  have keeps : ∀ held found, held.isSome = set.isSome → (keep held found).isSome = set.isSome := by
    intro held found same
    rw [Option.isSome_map, same]
  have threaded := Plan.thread_eq_forEach_of _ step keeps owner.schema.relations rfl
  have kept (found : List (Option Lookup)) :
      found.foldl keep set = set.map fun set => set.insertAll (Lookup.records (found.filterMap id)) := by
    refine (foldl_map_option _ found set).trans ?_
    simp only [records_filterMap, LinkedRecords.foldl_insertAll]
  rw [linksWith, threaded]
  simp only [lookups, map_eq_pure_bind, bind_assoc, pure_bind, List.map_id, kept]

/-- With a set the links are those of a record that was asked for. -/
theorem linksWith_some (set : LinkedRecords) :
    v.linksWith owner (some set) =
      (fun shown => (shown.1.links, some (set.insertAll shown.2))) <$> v.showPrimary owner := by
  simp only [linksWith_eq_lookups, showPrimary, Option.isSome_some, Option.map_some, map_eq_pure_bind, bind_assoc,
    pure_bind]

/-- Without one they are those of a record that comes along. -/
theorem linksWith_none :
    v.linksWith owner none = (fun shown => (shown.links, none)) <$> v.showLinked owner := by
  simp only [linksWith_eq_lookups, showLinked, Option.isSome_none, Option.map_none, map_eq_pure_bind, bind_assoc,
    pure_bind]

/-- The link of a relation describes it, whatever the data sources answer. -/
theorem gives_lookup_describes (sideLoad : Bool) {field : Field} (relation : field.isRelation = true) :
    (v.lookup owner sideLoad field).Gives fun found =>
      ∃ l, found = some l ∧ l.name = field.name ∧ l.link.Describes v.base owner field := by
  refine v.gives_lookup_of owner sideLoad relation (fun target key one => ?_) fun target many => ?_
  · have held : field.key? = some key := by rw [Field.key?, one]
    refine Plan.gives_bind fun found => ⟨rfl, { type := ?_, resource := rfl, toOne := ?_, toMany := ?_ }⟩
    · rw [Field.target?, one]
    · intro own same
      obtain rfl : key = own := Option.some.inj (held.symm.trans same)
      exact ⟨rfl, fun _ => Entity.reference?_eq_some_iff⟩
    · intro keyless
      rw [held] at keyless
      cases keyless
  · have keyless : field.key? = none := by rw [Field.key?, many]
    refine Plan.gives_bind fun found => ⟨rfl, { type := ?_, resource := rfl, toOne := ?_, toMany := ?_ }⟩
    · rw [Field.target?, many]
    · intro key same
      rw [keyless] at same
      cases same
    · exact fun _ => ⟨rfl, _, rfl⟩

end Viewpoint

/-- The links of a record, which are those that it is shown with, are the links of the relations of its schema: under the
name of each relation there is a link that describes it, and there are no others. This is so whatever the data sources
answer, whether they fail and whether the targets are served. Against a steady registry the links do not depend on the
state, nor on the set for what they lead to: it may hold anything, or be left out. -/
theorem links_complete (registry : Registry σ) (base : String) (request : Request) (owner : Record)
    (set : Option LinkedRecords) (s : σ) :
    let v := registry.viewpoint base request
    let links := ((v.linksWith owner set).run registry.backend s).value.1
    (links = match set with
        | some _ => ((v.showPrimary owner).run registry.backend s).value.1.links
        | none => ((v.showLinked owner).run registry.backend s).value.links) ∧
      links.names.Perm (owner.schema.relations.map Field.name) ∧
      (∀ field ∈ owner.schema.relations, ∃ link, links.get? field.name = some link ∧ link.Describes base owner field) ∧
      (registry.Steady → ∀ set' s', ((v.linksWith owner set').run registry.backend s').value.1 = links) := by
  intro v links
  have ran (set : Option LinkedRecords) (s : σ) : ((v.linksWith owner set).run registry.backend s).value.1 =
      Lookup.links ((v.lookups owner set.isSome).run registry.backend s).value := by
    rw [v.linksWith_eq_lookups, Plan.run_map]
  have each : ∀ field ∈ owner.schema.relations, (v.lookup owner set.isSome field).Gives fun found =>
      ∃ l, found = some l ∧ l.name = field.name ∧
        ∃ own ∈ owner.schema.relations, own.name = l.name ∧ l.link.Describes base owner own := by
    intro field declared
    refine (v.gives_lookup_describes owner set.isSome (List.mem_filter.1 declared).2).mono ?_
    rintro found ⟨l, same, name, describes⟩
    exact ⟨l, same, name, field, declared, name.symm, describes⟩
  obtain ⟨names, described⟩ := (v.gives_lookups_of owner set.isSome each).run registry.backend s
  have same : links = Lookup.links _ := ran set s
  refine ⟨?shown, ?names, ?linked, ?steady⟩
  case shown =>
    cases set with
    | some set => simp only [links, v.linksWith_some owner set, Plan.run_map]
    | none => simp only [links, v.linksWith_none owner, Plan.run_map]
  case names =>
    have perm := SortedMap.perm_names_ofList (Lookup.nodup_links names)
    rw [List.map_map] at perm
    rw [same, ← names]
    exact perm
  case linked =>
    intro field declared
    have among : field.name ∈ _ := names ▸ List.mem_map_of_mem declared
    obtain ⟨l, hl, name⟩ := List.mem_map.1 among
    obtain ⟨own, hown, hname, describes⟩ := described l hl
    -- The names of the relations are distinct, so the link under the name of one is not that of another.
    have found := Schema.relation?_of_mem hown
    rw [hname, name, Schema.relation?_of_mem declared] at found
    obtain rfl : field = own := Option.some.inj found
    refine ⟨l.link, ?_, describes⟩
    rw [same, ← name]
    exact Lookup.get?_links names hl
  case steady =>
    intro steady set' s'
    have value (set : Option LinkedRecords) (s' : σ) :
        Lookup.links ((v.lookups owner set.isSome).run registry.backend s').value =
          (v.shownBy (registry.backend.repliesAt s) owner).links := by
      have reads := (v.within_lookups owner set.isSome).mono fun _ h => h.reads
      rw [steady.run_value reads s' s, v.comesTo_lookups, v.links_lookedUp]
    rw [ran, value, same, value]

/-- The links of the first post of the blog are those of its author and of its comments, also when the author is linked
already, and the link of the author tells the id that the post holds. -/
theorem blog_links_complete :
    let links set := ((Blog.view.linksWith Blog.firstPost set).run Blog.registry.backend ()).value.1
    let author : Field := ⟨"author", .toOne "users" "authorID"⟩
    Blog.registry.Steady ∧ author ∈ Blog.posts.relations ∧
      (links none).names.Perm ["author", "comments"] ∧
      (∃ link, (links none).get? "author" = some link ∧ link.id = some "7" ∧ link.ids = none ∧
        link.type = "users" ∧ link.resource = "/v1/posts/1/author") ∧
      ∀ set, links (some set) = links none := by
  intro links author
  have steady : Blog.registry.Steady := (Blog.isTables none).steady
  have declared : author ∈ Blog.posts.relations := by decide
  obtain ⟨-, names, linked, same⟩ := links_complete Blog.registry "/v1" Blog.request Blog.firstPost none ()
  obtain ⟨link, held, describes⟩ := linked author declared
  obtain ⟨ids, id⟩ := describes.toOne "authorID" rfl
  have type : some "users" = some link.type := describes.type
  refine ⟨steady, declared, names, ⟨link, held, ?_, ids, (Option.some.inj type).symm, ?_⟩, ?_⟩
  · exact (id "7").2 ⟨rfl, by decide⟩
  · exact describes.resource.trans (by decide +kernel)
  · exact fun set => same steady (some set) ()

end ResourceApi

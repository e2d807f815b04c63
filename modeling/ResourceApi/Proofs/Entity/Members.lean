import ResourceApi.Proofs.Entity.Bodies
import ResourceApi.Proofs.Entity.Submitted

/-!
# What the members of an object give

From the members of an object an entity takes its id (`Entity.GivesId`) and what stands for the fields of its schema
(`Entity.Takes`). Where the keys of the schema are apart, no two fields take for one name, so the entity holds exactly what is
taken (`Entity.ofMembers_eq_ok_iff`) and the order of the fields does not count. Nor does any member that is not declared
(`Entity.Alike`, `declared_members_read`). Where an attribute has the name of the links, these are declared as a whole, and
every entry of them counts (`attribute_takes_links`).
-/

namespace ResourceApi

/-- The keys of relations to one are apart from each other and from the names of the attributes. -/
structure Schema.KeysApart (schema : Schema) : Prop where
  distinct : ∀ relation ∈ schema.relations, ∀ other ∈ schema.relations,
    relation.key?.isSome → relation.key? = other.key? → relation = other
  free : ∀ field ∈ schema.attributes, ∀ relation ∈ schema.relations, relation.key? ≠ some field.name

/-- Keys stay apart in any order of the fields. -/
theorem Schema.KeysApart.of_perm {schema other : Schema} (apart : schema.KeysApart)
    (reordered : other.fields.Perm schema.fields) : other.KeysApart where
  distinct relation declared relation' declared' :=
    apart.distinct relation ((reordered.filter _).mem_iff.1 declared) relation' ((reordered.filter _).mem_iff.1 declared')
  free field declared relation declared' :=
    apart.free field ((reordered.filter _).mem_iff.1 declared) relation ((reordered.filter _).mem_iff.1 declared')

namespace Entity

variable {schema : Schema} {members members' : List (String × Json)}

/-! ## The id -/

/-- What an object gives for the id: nothing and null for an empty one, a text for itself, and a number for its text. -/
inductive GivesId (members : List (String × Json)) : String → Prop
  | missing (h : Entries.find? "id" members = none) : GivesId members ""
  | null (h : Entries.find? "id" members = some .null) : GivesId members ""
  | text {id : String} (h : Entries.find? "id" members = some (.str id)) : GivesId members id
  | number {value : Json.Number} (h : Entries.find? "id" members = some (.num value)) :
    GivesId members (String.ofList value.print)

/-- What an object holds in the place of the id is neither a text nor a number. -/
inductive MistakesId (members : List (String × Json)) : Prop
  | truth {value : Bool} (h : Entries.find? "id" members = some (.bool value))
  | array {items : List Json} (h : Entries.find? "id" members = some (.arr items))
  | object {inner : List (String × Json)} (h : Entries.find? "id" members = some (.obj inner))

/-- An id that is read is the one the members give. -/
theorem submittedId_eq_ok_iff {id : String} : submittedId (Entries.find? "id" members) = .ok id ↔ GivesId members id := by
  constructor
  · intro h
    cases found : Entries.find? "id" members with
    | none =>
      rw [found] at h
      cases h
      exact .missing found
    | some value =>
      rw [found] at h
      cases value with
      | null => cases h; exact .null found
      | str text => cases h; exact .text found
      | num value => cases h; exact .number found
      | bool | arr | obj => cases h
  · intro h
    cases h with
    | missing h | null h | text h | number h => rw [h]; rfl

/-- The id is refused exactly when a truth value, an array or an object stands in its place. -/
theorem exists_submittedId_eq_error_iff :
    (∃ reason, submittedId (Entries.find? "id" members) = .error reason) ↔ MistakesId members := by
  constructor
  · rintro ⟨reason, h⟩
    cases found : Entries.find? "id" members with
    | none =>
      rw [found] at h
      cases h
    | some value =>
      rw [found] at h
      cases value with
      | null | str | num => cases h
      | bool => exact .truth found
      | arr => exact .array found
      | obj => exact .object found
  · intro h
    cases h with
    | truth h | array h | object h => exact ⟨.malformedId, by rw [h]; rfl⟩

/-! ## Values -/

/-- Where keys are apart, one value is taken for a name. -/
theorem Takes.unique (apart : schema.KeysApart) {name : String} {value value' : Json} (h : Takes schema members name value)
    (h' : Takes schema members name value') : value = value' := by
  cases h with
  | value declared named found =>
    cases h' with
    | value declared' named' found' => exact Option.some.inj (found.symm.trans found')
    | reference declared' named' refers' => exact absurd (named ▸ named') (apart.free _ declared _ declared')
  | reference declared named refers =>
    cases h' with
    | value declared' named' found' => exact absurd (named' ▸ named) (apart.free _ declared' _ declared)
    | reference declared' named' refers' =>
      obtain rfl := apart.distinct _ declared _ declared' (by rw [named]; rfl) (named.trans named'.symm)
      have same := (submittedReference_eq_some_iff.2 refers).symm.trans (submittedReference_eq_some_iff.2 refers')
      rw [Option.some.inj same]

/-! ## Entities -/

/-- The entity read from members is a bare one under the submitted id into which every declared field is taken in turn. -/
theorem ofMembers_eq (schema : Schema) (members : List (String × Json)) :
    ofMembers schema members =
      (submittedId (Entries.find? "id" members)).map fun id => schema.fields.foldl (takeField members) (bare id) := by
  unfold ofMembers
  cases submittedId (Entries.find? "id" members) <;> rfl

/-- An entity that is read holds what is taken. -/
theorem get?_foldl_takeField_bare_iff (apart : schema.KeysApart) (id : String) {name : String} {value : Json} :
    (schema.fields.foldl (takeField members) (bare id)).get? name = some value ↔ Takes schema members name value := by
  rcases get?_foldl_takeField members schema.fields (bare id) name with
    ⟨untaken, kept⟩ | ⟨field, declared, other, taken, held⟩
  · rw [kept, takes_iff]
    constructor
    · exact nofun
    · rintro ⟨field, declared, taken⟩
      exact absurd taken (untaken field declared value)
  · have takes : Takes schema members name other := takes_iff.2 ⟨field, declared, taken⟩
    rw [held, Option.some.injEq]
    constructor
    · rintro rfl
      exact takes
    · exact takes.unique apart

/-- Entities of one id that answer alike under every name are the same entity. -/
theorem eq_of_get? {e other : Entity} (id : e.id = other.id) (held : ∀ name, e.get? name = other.get? name) : e = other := by
  cases e
  cases other
  cases id
  exact congrArg _ (SortedMap.eq_of_get? held)

/-- What is read is the id that is given and the values that are taken. -/
theorem ofMembers_eq_ok_iff (apart : schema.KeysApart) {e : Entity} :
    ofMembers schema members = .ok e ↔
      GivesId members e.id ∧ ∀ name value, e.get? name = some value ↔ Takes schema members name value := by
  rw [ofMembers_eq]
  constructor
  · intro h
    cases given : submittedId (Entries.find? "id" members) with
    | error => rw [given] at h; cases h
    | ok id =>
      rw [given] at h
      cases h
      rw [id_foldl_takeField]
      exact ⟨submittedId_eq_ok_iff.1 given, fun _ _ => get?_foldl_takeField_bare_iff apart id⟩
  · rintro ⟨named, held⟩
    rw [submittedId_eq_ok_iff.2 named]
    refine congrArg Except.ok (eq_of_get? (id_foldl_takeField _ _ _) fun name => Option.ext fun value => ?_)
    rw [get?_foldl_takeField_bare_iff apart, held]

/-- The members of an object are refused for what they hold in the place of the id. -/
theorem exists_ofMembers_eq_error_iff : (∃ reason, ofMembers schema members = .error reason) ↔ MistakesId members := by
  rw [← exists_submittedId_eq_error_iff, ofMembers_eq]
  cases submittedId (Entries.find? "id" members) with
  | ok id => exact ⟨nofun, nofun⟩
  | error reason => exact ⟨fun _ => ⟨reason, rfl⟩, fun _ => ⟨reason, rfl⟩⟩

/-- Where the same id and the same values are taken, the same is read. -/
theorem ofMembers_congr {schema' : Schema} (apart : schema.KeysApart) (apart' : schema'.KeysApart)
    (named : Entries.find? "id" members' = Entries.find? "id" members)
    (taken : ∀ name value, Takes schema' members' name value ↔ Takes schema members name value) :
    ofMembers schema' members' = ofMembers schema members := by
  rw [ofMembers_eq, ofMembers_eq, named]
  congr 1
  funext id
  refine eq_of_get? ?_ fun name => Option.ext fun value => ?_
  · rw [id_foldl_takeField, id_foldl_takeField]
  · rw [get?_foldl_takeField_bare_iff apart', get?_foldl_takeField_bare_iff apart, taken]

/-! ## What does not count -/

/-- Two objects agree in what a schema declares: in the id, in the attributes and keys, and in the links of relations to
one. -/
structure Alike (schema : Schema) (members members' : List (String × Json)) : Prop where
  named : ∀ name, name = "id" ∨ schema.Admits name → name ≠ "links" →
    Entries.find? name members' = Entries.find? name members
  linked : Entries.find? "links" members' = Entries.find? "links" members ∨
    ∃ links links', Entries.find? "links" members = some (.obj links) ∧ Entries.find? "links" members' = some (.obj links') ∧
      ∀ relation ∈ schema.relations, relation.key?.isSome →
        Entries.find? relation.name links' = Entries.find? relation.name links

namespace Alike

variable (h : Alike schema members members')
include h

theorem linked_iff {relation : Field} (declared : relation ∈ schema.relations) (single : relation.key?.isSome) (id : String) :
    Linked members' relation.name id ↔ Linked members relation.name id := by
  unfold Linked
  rcases h.linked with same | ⟨links, links', found, found', same⟩
  · rw [same]
  · simp only [found, found', Option.some.injEq, Json.obj.injEq, exists_eq_left', same relation declared single]

/-- Under a declared name stand the same texts. -/
theorem find?_eq_str_iff {name : String} (admitted : schema.Admits name) (text : String) :
    Entries.find? name members' = some (.str text) ↔ Entries.find? name members = some (.str text) := by
  by_cases links : name = "links"
  · subst links
    rcases h.linked with same | ⟨links, links', found, found', -⟩
    · rw [same]
    · rw [found, found']
      exact ⟨nofun, nofun⟩
  · rw [h.named name (.inr admitted) links]

/-- Members that agree on what is declared refer to the same ids through the reference key of a relation. -/
theorem refers_iff {relation : Field} (declared : relation ∈ schema.relations) {key : String}
    (named : relation.key? = some key) (id : String) :
    Refers members' relation.name key id ↔ Refers members relation.name key id := by
  have linked := h.linked_iff declared (by rw [named]; rfl)
  have held := h.find?_eq_str_iff (.inr ⟨relation, declared, named⟩)
  constructor
  · rintro (found | ⟨unlinked, found⟩)
    · exact .linked ((linked id).1 found)
    · exact .kept (fun other found => unlinked other ((linked other).2 found)) ((held id).1 found)
  · rintro (found | ⟨unlinked, found⟩)
    · exact .linked ((linked id).2 found)
    · exact .kept (fun other found => unlinked other ((linked other).1 found)) ((held id).2 found)

/-- The same is taken from objects that are alike, unless an attribute takes the links. -/
theorem takes_iff (apart : (∀ field ∈ schema.attributes, field.name ≠ "links") ∨
      Entries.find? "links" members' = Entries.find? "links" members) (name : String) (value : Json) :
    Takes schema members' name value ↔ Takes schema members name value := by
  have held {field : Field} (declared : field ∈ schema.attributes) :
      Entries.find? field.name members' = Entries.find? field.name members := by
    by_cases links : field.name = "links"
    · rw [links]
      exact apart.resolve_left fun other => other field declared links
    · exact h.named field.name (.inr (.inl ⟨field, declared, rfl⟩)) links
  constructor
  · rintro (⟨declared, rfl, found⟩ | ⟨declared, named, refers⟩)
    · exact .value declared rfl ((held declared).symm.trans found)
    · exact .reference declared named ((h.refers_iff declared named _).1 refers)
  · rintro (⟨declared, rfl, found⟩ | ⟨declared, named, refers⟩)
    · exact .value declared rfl ((held declared).trans found)
    · exact .reference declared named ((h.refers_iff declared named _).2 refers)

end Alike

/-- In any order of the fields the same is taken. -/
theorem takes_iff_of_perm {other : Schema} (reordered : other.fields.Perm schema.fields) (name : String) (value : Json) :
    Takes other members name value ↔ Takes schema members name value := by
  simp only [takes_iff, reordered.mem_iff]

end Entity

/-- Where the keys of a schema are apart, exactly what it declares is read from the members of an object. The object is refused
only for what it holds in the place of the id, as a fault of the client in that field; otherwise the entity has the id that is
given, and under each name the value that is taken for it. So the order of the fields does not count, nor does what stands
under other names or, unless an attribute takes the links whole, what the links name for anything but a relation to one. -/
theorem declared_members_read (schema : Schema) (apart : schema.KeysApart) (members : List (String × Json)) :
    ((∃ reason, Entity.ofMembers schema members = .error reason) ↔ Entity.MistakesId members) ∧
      (∀ reason, Entity.ofMembers schema members = .error reason →
        reason.fault.kind = .validation ∧ reason.fault.fieldFaults.map FieldFault.path = ["id"]) ∧
      (∀ e, Entity.ofMembers schema members = .ok e ↔
        Entity.GivesId members e.id ∧ ∀ name value, e.get? name = some value ↔ Entity.Takes schema members name value) ∧
      (∀ other : Schema, other.fields.Perm schema.fields →
        Entity.ofMembers other members = Entity.ofMembers schema members) ∧
      ∀ members', Entity.Alike schema members members' →
        (∀ field ∈ schema.attributes, field.name ≠ "links") ∨
          Entries.find? "links" members' = Entries.find? "links" members →
        Entity.ofMembers schema members' = Entity.ofMembers schema members := by
  refine ⟨Entity.exists_ofMembers_eq_error_iff, ?faults, fun _ => Entity.ofMembers_eq_ok_iff apart, ?reordered, ?alike⟩
  case faults =>
    intro reason refused
    obtain rfl := Entity.ofMembers_eq_error refused
    exact ⟨rfl, rfl⟩
  case reordered =>
    intro other reordered
    exact Entity.ofMembers_congr apart (apart.of_perm reordered) rfl (Entity.takes_iff_of_perm reordered)
  case alike =>
    intro members' alike untaken
    exact Entity.ofMembers_congr apart apart (alike.named "id" (.inl rfl) (by decide)) (alike.takes_iff untaken)

/-- Of a post that names an author twice the author among the links is taken; null is a title, and a number is an id. The same
post is read without what is not declared, and by the schema with its fields turned around. -/
theorem post_read_from_members :
    let members : List (String × Json) := [("authorID", .str "3"), ("comments", .arr []), ("id", .num (.integer 12)),
      ("links", .obj [("author", .str "7"), ("mood", .null)]), ("title", .null)]
    let members' : List (String × Json) := [("authorID", .str "3"), ("id", .num (.integer 12)),
      ("links", .obj [("author", .str "7")]), ("title", .null)]
    let turned : Schema := { typeName := "posts", fields := Blog.posts.fields.reverse, distinct := by decide }
    Blog.posts.KeysApart ∧ Entity.Alike Blog.posts members members' ∧
      (∃ e, Entity.ofMembers Blog.posts members = .ok e ∧ e.id = "12" ∧ e.get? "title" = some .null ∧
        e.get? "authorID" = some (.str "7") ∧ e.get? "comments" = none) ∧
      Entity.ofMembers Blog.posts members' = Entity.ofMembers Blog.posts members ∧
      Entity.ofMembers turned members = Entity.ofMembers Blog.posts members := by
  intro members members' turned
  have apart : Blog.posts.KeysApart := ⟨by decide, by decide⟩
  have attributes : Blog.posts.attributes = [⟨"title", .scalar⟩] := rfl
  have relations : Blog.posts.relations = [⟨"author", .toOne "users" "authorID"⟩, ⟨"comments", .toMany "comments"⟩] := rfl
  have alike : Entity.Alike Blog.posts members members' := by
    constructor
    case named =>
      rintro name (rfl | ⟨field, declared, rfl⟩ | ⟨relation, declared, named⟩) -
      · rfl
      · obtain rfl := List.mem_singleton.1 (attributes ▸ declared)
        rfl
      · simp only [relations, List.mem_cons, List.not_mem_nil, or_false] at declared
        rcases declared with rfl | rfl <;> cases named
        rfl
    case linked =>
      refine .inr ⟨_, _, rfl, rfl, fun relation declared single => ?_⟩
      simp only [relations, List.mem_cons, List.not_mem_nil, or_false] at declared
      rcases declared with rfl | rfl
      · rfl
      · cases single
  obtain ⟨-, -, read, reordered, same⟩ := declared_members_read Blog.posts apart members
  obtain ⟨e, h⟩ : ∃ e, Entity.ofMembers Blog.posts members = .ok e := ⟨_, rfl⟩
  obtain ⟨named, held⟩ := (read e).1 h
  have title : e.get? "title" = some .null := (held _ _).2 (.value (attributes ▸ List.mem_singleton.2 rfl) rfl rfl)
  have author : e.get? "authorID" = some (.str "7") :=
    (held _ _).2 (.reference (relations ▸ List.mem_cons_self) rfl (.linked ⟨_, rfl, rfl⟩))
  have id : e.id = "12" := (Except.ok.inj (Entity.submittedId_eq_ok_iff.2 named)).symm
  have comments : e.get? "comments" = none := by
    cases h
    rfl
  exact ⟨apart, alike, ⟨e, h, id, title, author, comments⟩, same members' alike (.inl (by decide)),
    reordered turned (List.reverse_perm _)⟩

/-- Where an attribute is named as the links are, it takes them whole. So an entry of the links counts although no relation has
its name. -/
theorem attribute_takes_links :
    let schema : Schema := { typeName := "posts", fields := [⟨"links", .scalar⟩], distinct := by decide }
    let members : List (String × Json) := [("links", .obj [("x", .num (.integer 1))])]
    let members' : List (String × Json) := [("links", .obj [])]
    schema.KeysApart ∧ schema.relations = [] ∧ Entity.Alike schema members members' ∧
      Entity.ofMembers schema members' ≠ Entity.ofMembers schema members := by
  intro schema members members'
  have alike : Entity.Alike schema members members' := by
    constructor
    case named =>
      rintro name (rfl | ⟨field, declared, rfl⟩ | ⟨relation, declared, -⟩) unlinked
      · rfl
      · obtain rfl : field = ⟨"links", .scalar⟩ := List.mem_singleton.1 declared
        exact absurd rfl unlinked
      · cases declared
    case linked => exact .inr ⟨_, _, rfl, rfl, nofun⟩
  refine ⟨⟨by decide, by decide⟩, rfl, alike, fun same => ?_⟩
  have held := congrArg (fun read => read.toOption.bind fun e => e.get? "links") same
  cases held

end ResourceApi

import ResourceApi.Entity.Submitted
import ResourceApi.Proofs.Json.Reader
import ResourceApi.Proofs.Registry.Table

/-!
# What bodies come to

Every body comes to one of eight results, by what it is read as and by what stands under the name of the type
(`Entity.ComesOf`). The count of an array is looked at before its items, so an array of none or of several things is the
server's failure whatever they are, and a single thing that is no object is the client's (`bodies_classified`). An object
counts the same alone and as the only item of an array, and whatever stands under other names does not count.
-/

namespace ResourceApi

/-! ## What stands in a body -/

namespace Json

/-- A body is read as an object that holds a value under a name. -/
def Holds (body : Bytes) (name : String) (value : Json) : Prop :=
  ∃ members, ofBytes? body = some (.obj members) ∧ Entries.find? name members = some value

/-- A body is read as an object that holds, under the name of a type, an object of given members, alone or as the only item of
an array. -/
def Submits (body : Bytes) (type : String) (members : List (String × Json)) : Prop :=
  ∃ document payload, ofBytes? body = some document ∧ document.obj?.bind (Entries.find? type) = some payload ∧
    (payload = .obj members ∨ payload = .arr [.obj members])

theorem Submits.holds {body : Bytes} {type : String} {members : List (String × Json)} (h : Submits body type members) :
    Holds body type (.obj members) ∨ Holds body type (.arr [.obj members]) := by
  obtain ⟨document, payload, read, held, single⟩ := h
  obtain ⟨own, object, held⟩ := Option.bind_eq_some_iff.1 held
  cases document with
  | obj members =>
    obtain rfl : members = own := Option.some.inj object
    rcases single with rfl | rfl
    · exact .inl ⟨members, read, held⟩
    · exact .inr ⟨members, read, held⟩
  | _ => cases object

/-- An object that is printed is read with what it holds. -/
theorem Readable.holds {members : List (String × Json)} (h : (Json.obj members).Readable maxDepth) {name : String}
    {value : Json} (held : Entries.find? name members = some value) : Holds (Json.obj members).bytes name value :=
  ⟨members, h.ofBytes?_bytes, held⟩

/-- So is an object that holds one value. -/
theorem Readable.holds_only {value : Json} (h : value.Readable 126) (name : String) :
    Holds (Json.obj [(name, value)]).bytes name value := by
  have readable : (Json.obj [(name, value)]).Readable maxDepth := by
    refine .obj (List.pairwise_singleton _ _) fun member among => ?_
    rw [List.mem_singleton.1 among]
    exact h
  exact readable.holds (if_pos rfl)

end Json

/-! ## What bodies come to -/

namespace Entity

open Json (Holds)

/-- What a body comes to for a schema, by what it is read as and by what it holds under the name of the type. -/
inductive ComesOf (schema : Schema) (body : Bytes) : Except Refusal Entity → Prop
  /-- The body is not JSON. -/
  | unread (h : Json.ofBytes? body = none) : ComesOf schema body (.error .malformedBody)
  /-- The body is no object. -/
  | other {document : Json} (read : Json.ofBytes? body = some document) (h : document.obj? = none) :
    ComesOf schema body (.error (.missingEntity schema.typeName))
  /-- The body holds nothing under the name of the type. -/
  | missing {members : List (String × Json)} (read : Json.ofBytes? body = some (.obj members))
    (h : Entries.find? schema.typeName members = none) : ComesOf schema body (.error (.missingEntity schema.typeName))
  /-- It holds neither an object nor an array. -/
  | plain {payload : Json} (held : Holds body schema.typeName payload) (object : ∀ members, payload ≠ .obj members)
    (array : ∀ items, payload ≠ .arr items) : ComesOf schema body (.error (.notAnEntity schema.typeName))
  /-- It holds an array of one thing that is no object. -/
  | item {item : Json} (held : Holds body schema.typeName (.arr [item])) (object : ∀ members, item ≠ .obj members) :
    ComesOf schema body (.error (.itemNotAnEntity schema.typeName))
  /-- It holds an array of none or of several things. -/
  | several {items : List Json} (held : Holds body schema.typeName (.arr items)) (count : items.length ≠ 1) :
    ComesOf schema body (.error (.notOneEntity schema.typeName items.length))
  /-- It holds an object. -/
  | alone {members : List (String × Json)} (held : Holds body schema.typeName (.obj members)) :
    ComesOf schema body (ofMembers schema members)
  /-- It holds an array of one object. -/
  | listed {members : List (String × Json)} (held : Holds body schema.typeName (.arr [.obj members])) :
    ComesOf schema body (ofMembers schema members)

variable {schema : Schema} {body : Bytes}

/-- A document that holds something under the name of the type comes to what is made of this. -/
theorem ofDocument_of_find? {members : List (String × Json)} {payload : Json}
    (held : Entries.find? schema.typeName members = some payload) :
    ofDocument schema (.obj members) = submittedMembers schema.typeName payload >>= ofMembers schema := by
  have found : (Json.obj members).obj?.bind (Entries.find? schema.typeName) = some payload := held
  simp only [ofDocument, found]

/-- So does a body. -/
theorem ofBody_of_holds {payload : Json} (held : Holds body schema.typeName payload) :
    ofBody schema body = submittedMembers schema.typeName payload >>= ofMembers schema := by
  obtain ⟨members, read, held⟩ := held
  simp only [ofBody, read, ofDocument_of_find? held]

/-- An array is turned down when it does not hold exactly one item. -/
theorem submittedMembers_of_several (type : String) {items : List Json} (count : items.length ≠ 1) :
    submittedMembers type (.arr items) = .error (.notOneEntity type items.length) := by
  match items with
  | [] => rfl
  | [_] => exact absurd rfl count
  | first :: second :: rest => cases first <;> rfl

/-- The one item of an array has to be an object. -/
theorem submittedMembers_of_item (type : String) {item : Json} (object : ∀ members, item ≠ .obj members) :
    submittedMembers type (.arr [item]) = .error (.itemNotAnEntity type) := by
  cases item with
  | obj members => exact absurd rfl (object members)
  | _ => rfl

/-- What is neither an object nor an array holds no entity. -/
theorem submittedMembers_of_plain (type : String) {payload : Json} (object : ∀ members, payload ≠ .obj members)
    (array : ∀ items, payload ≠ .arr items) : submittedMembers type payload = .error (.notAnEntity type) := by
  cases payload with
  | obj members => exact absurd rfl (object members)
  | arr items => exact absurd rfl (array items)
  | _ => rfl

/-- What a body comes to is what is read from it. -/
theorem ComesOf.ofBody_eq {result : Except Refusal Entity} (h : ComesOf schema body result) :
    ofBody schema body = result := by
  cases h with
  | unread read => simp only [ofBody, read]
  | other read object => simp only [ofBody, read, ofDocument, object, Option.bind_none]
  | missing read absent =>
    have nothing : (Json.obj _).obj?.bind (Entries.find? schema.typeName) = none := absent
    simp only [ofBody, read, ofDocument, nothing]
  | plain held object array => rw [ofBody_of_holds held, submittedMembers_of_plain _ object array]; rfl
  | item held object => rw [ofBody_of_holds held, submittedMembers_of_item _ object]; rfl
  | several held count => rw [ofBody_of_holds held, submittedMembers_of_several _ count]; rfl
  | alone held => exact ofBody_of_holds held
  | listed held => exact ofBody_of_holds held

/-- Every body comes to something. -/
theorem exists_comesOf (schema : Schema) (body : Bytes) : ∃ result, ComesOf schema body result := by
  cases read : Json.ofBytes? body with
  | none => exact ⟨_, .unread read⟩
  | some document =>
    cases document with
    | obj members =>
      cases found : Entries.find? schema.typeName members with
      | none => exact ⟨_, .missing read found⟩
      | some payload =>
        have held : Holds body schema.typeName payload := ⟨members, read, found⟩
        cases payload with
        | obj members => exact ⟨_, .alone held⟩
        | arr items =>
          match items with
          | [] => exact ⟨_, .several held (by simp)⟩
          | first :: second :: rest => exact ⟨_, .several held (by simp)⟩
          | [first] =>
            cases first with
            | obj members => exact ⟨_, .listed held⟩
            | _ => exact ⟨_, .item held nofun⟩
        | _ => exact ⟨_, .plain held nofun nofun⟩
    | _ => exact ⟨_, .other read rfl⟩

/-- The outcomes the specification lists for a body are the ones the reader gives it. -/
theorem comesOf_iff {result : Except Refusal Entity} : ComesOf schema body result ↔ ofBody schema body = result := by
  constructor
  · exact ComesOf.ofBody_eq
  · rintro rfl
    obtain ⟨result, h⟩ := exists_comesOf schema body
    exact h.ofBody_eq.symm ▸ h

/-- The members of an object are refused only for the id among them. -/
theorem ofMembers_eq_error {members : List (String × Json)} {reason : Refusal}
    (h : ofMembers schema members = .error reason) : reason = .malformedId := by
  unfold ofMembers at h
  unfold submittedId at h
  split at h <;> cases h
  rfl

/-- A body is refused as a failure of the server for the count of an array, and as a fault of the client for all else. -/
theorem kind_of_ofBody_eq_error {reason : Refusal} (h : ofBody schema body = .error reason) :
    (reason.fault.kind = .internal ∧ ∃ items, Holds body schema.typeName (.arr items) ∧ items.length ≠ 1) ∨
      reason.fault.kind = .validation := by
  generalize refused : Except.error reason = result at h
  cases comesOf_iff.2 h with
  | unread | other | missing | plain | item =>
    cases refused
    exact .inr rfl
  | several held count =>
    cases refused
    exact .inl ⟨rfl, _, held, count⟩
  | alone | listed =>
    obtain rfl := ofMembers_eq_error refused.symm
    exact .inr rfl

end Entity

/-- From a body that holds the members of an entity, the entity is read. -/
theorem Json.Submits.ofBody_eq {schema : Schema} {body : Bytes} {members : List (String × Json)}
    (h : Json.Submits body schema.typeName members) : Entity.ofBody schema body = Entity.ofMembers schema members := by
  rcases h.holds with held | held
  · exact Entity.comesOf_iff.1 (.alone held)
  · exact Entity.comesOf_iff.1 (.listed held)

/-- Every body comes to one result, which is told by what it is read as and by what it holds under the name of the type. It
is refused as a failure of the server if this is an array of none or of several things, whatever they are, and otherwise, if
it is refused, as a fault of the client. An object counts the same alone and as the only item of an array, and what stands
under other names does not count. All this is so for bodies as they are read. Of a document every object is taken so, however
deep it is nested; a body is only read to some depth, and an object that keeps to it is read, alone and in an array, as it is
printed. -/
theorem bodies_classified (schema : Schema) (body : Bytes) :
    (∀ result, Entity.ofBody schema body = result ↔ Entity.ComesOf schema body result) ∧
      ((∃ reason, Entity.ofBody schema body = .error reason ∧ reason.fault.kind = .internal) ↔
        ∃ items, Json.Holds body schema.typeName (.arr items) ∧ items.length ≠ 1) ∧
      (∀ reason, Entity.ofBody schema body = .error reason →
        reason.fault.kind = .internal ∨ reason.fault.kind = .validation) ∧
      (∀ o body', Json.Holds body schema.typeName (.obj o) → Json.Holds body' schema.typeName (.arr [.obj o]) →
        Entity.ofBody schema body' = Entity.ofBody schema body) ∧
      (∀ members members' body', Json.ofBytes? body = some (.obj members) → Json.ofBytes? body' = some (.obj members') →
        Entries.find? schema.typeName members' = Entries.find? schema.typeName members →
        Entity.ofBody schema body' = Entity.ofBody schema body) ∧
      (∀ o members, Entries.find? schema.typeName members = some (.obj o) ∨
          Entries.find? schema.typeName members = some (.arr [.obj o]) →
        Entity.ofDocument schema (.obj members) = Entity.ofMembers schema o) ∧
      ∀ o, (Json.obj o).Readable 125 →
        Entity.ofBody schema (Json.obj [(schema.typeName, .obj o)]).bytes = Entity.ofMembers schema o ∧
        Entity.ofBody schema (Json.obj [(schema.typeName, .arr [.obj o])]).bytes = Entity.ofMembers schema o := by
  refine ⟨fun _ => Entity.comesOf_iff.symm, ⟨?internal, ?counted⟩, ?kinds, ?single, ?others, ?documents, ?printed⟩
  case internal =>
    rintro ⟨reason, refused, kind⟩
    rcases Entity.kind_of_ofBody_eq_error refused with ⟨-, counted⟩ | other
    · exact counted
    · rw [kind] at other
      cases other
  case counted =>
    rintro ⟨items, held, count⟩
    exact ⟨_, Entity.comesOf_iff.1 (.several held count), rfl⟩
  case kinds =>
    intro reason refused
    exact (Entity.kind_of_ofBody_eq_error refused).imp_left And.left
  case single =>
    intro o body' alone listed
    exact (Entity.comesOf_iff.1 (.listed listed)).trans (Entity.comesOf_iff.1 (.alone alone)).symm
  case others =>
    intro members members' body' read read' same
    cases found : Entries.find? schema.typeName members with
    | none =>
      rw [found] at same
      exact (Entity.comesOf_iff.1 (.missing read' same)).trans (Entity.comesOf_iff.1 (.missing read found)).symm
    | some payload =>
      rw [found] at same
      exact (Entity.ofBody_of_holds ⟨members', read', same⟩).trans (Entity.ofBody_of_holds ⟨members, read, found⟩).symm
  case documents =>
    rintro o members (alone | listed)
    · exact Entity.ofDocument_of_find? alone
    · exact Entity.ofDocument_of_find? listed
  case printed =>
    intro o readable
    have item : (Json.arr [.obj o]).Readable 126 := by
      refine .arr fun item among => ?_
      rw [List.mem_singleton.1 among]
      exact readable
    constructor
    · exact Entity.comesOf_iff.1 (.alone ((readable.mono (by decide)).holds_only schema.typeName))
    · exact Entity.comesOf_iff.1 (.listed (item.holds_only schema.typeName))

/-- A post is taken alone and as the only item of an array, whatever else the body holds. Two things in the place of a post are
refused as a failure of the server although neither is an object. -/
theorem blog_bodies_classified :
    let title : List (String × Json) := [("title", .str "First")]
    let alone := (Json.obj [("posts", .obj title)]).bytes
    let listed := (Json.obj [("more", .null), ("posts", .arr [.obj title])]).bytes
    let several := (Json.obj [("posts", .arr [.null, .bool true])]).bytes
    Json.Holds alone "posts" (.obj title) ∧ Json.Holds listed "posts" (.arr [.obj title]) ∧
      Json.Holds several "posts" (.arr [.null, .bool true]) ∧
      Entity.ofBody Blog.posts listed = Entity.ofBody Blog.posts alone ∧
      ∃ reason, Entity.ofBody Blog.posts several = .error reason ∧ reason.fault.kind = .internal := by
  intro title alone listed several
  have holdsAlone : Json.Holds alone "posts" (.obj title) := ⟨_, rfl, rfl⟩
  have holdsListed : Json.Holds listed "posts" (.arr [.obj title]) := ⟨_, rfl, rfl⟩
  have holdsSeveral : Json.Holds several "posts" (.arr [.null, .bool true]) := ⟨_, rfl, rfl⟩
  obtain ⟨-, -, -, single, -⟩ := bodies_classified Blog.posts alone
  obtain ⟨-, failure, -⟩ := bodies_classified Blog.posts several
  exact ⟨holdsAlone, holdsListed, holdsSeveral, single title listed holdsAlone holdsListed,
    failure.2 ⟨_, holdsSeveral, by decide⟩⟩

end ResourceApi

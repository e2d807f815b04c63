import ResourceApi.Proofs.Api.Conversation
import ResourceApi.Proofs.Document.Resubmitting
import ResourceApi.Proofs.Entity.Bodies
import ResourceApi.Proofs.Json.Reader
import ResourceApi.Proofs.Users.Usernames

/-!
# Sending back what was shown

A client that sends an entity back as it was shown changes nothing that is shown of it (`resubmission_shows_nothing_new`). What
it sends has to be read as what was shown, and so it is if all values that are shown can be read (`Record.submits_render`). Of
doubles that is not certain: one that was shown may be read as the next to it, and then it is shown so
(`doubles_read_beside`).
-/

namespace ResourceApi

variable {σ : Type}

/-! ## What is shown is read -/

/-- Links are read as they are shown. -/
theorem Link.readable_json (link : Link) : link.json.Readable 2 := by
  refine .obj ?_ fun member among => ?_
  · cases link.id <;> cases link.ids <;> simp [Entries.Sorted] <;> decide
  · simp only [List.mem_append, Option.mem_toList, Option.map_eq_some_iff, List.mem_cons, List.not_mem_nil, or_false]
      at among
    rcases among with (⟨id, -, rfl⟩ | ⟨ids, -, rfl⟩) | rfl | rfl
    · exact .str id
    · refine .arr fun item among => ?_
      obtain ⟨id, -, rfl⟩ := List.mem_map.1 among
      exact .str id
    · exact .str link.resource
    · exact .str link.type

/-- Links are read back as they are written. -/
theorem Links.readable_json (links : Links) : links.json.Readable 3 := by
  refine .obj (List.pairwise_map.2 links.sorted) fun member among => ?_
  obtain ⟨entry, -, rfl⟩ := List.mem_map.1 among
  exact entry.2.readable_json

namespace Record

variable (r : Record) (links : Links)

/-- A rendered record is read as it is written if the values of its attributes are. -/
theorem readable_members {depth : Nat} (deep : 3 ≤ depth)
    (values : ∀ field ∈ r.schema.attributes, ∀ value, r.entity.get? field.name = some value → value.Readable depth) :
    (Json.obj (r.members links).entries).Readable (depth + 1) := by
  refine .obj (r.members links).sorted fun ⟨name, value⟩ among => ?_
  have held : (r.members links).get? name = some value := SortedMap.get?_eq_some_iff.2 among
  rw [get?_members] at held
  split at held
  · cases held
    exact links.readable_json.mono deep
  · rcases Option.or_eq_some_iff.1 held with shown | ⟨-, named⟩
    · obtain ⟨field, own, shown⟩ := Option.bind_eq_some_iff.1 shown
      obtain ⟨declared, -⟩ := Schema.of_attribute? own
      cases set : r.entity.get? field.name with
      | some own =>
        rw [Entity.shown?_of_get? set] at shown
        cases shown
        exact values field declared value set
      | none =>
        rw [Entity.shown?_of_unset set] at shown
        split at shown
        · cases shown
          exact .null
        · cases shown
    · rw [get?_identity] at named
      split at named
      · cases named
        exact .str _
      · split at named
        · cases named
          exact .str _
        · cases named

/-- The bytes of a rendered record, sent under the name of its type, are read as the record. -/
theorem submits_render
    (values : ∀ field ∈ r.schema.attributes, ∀ value, r.entity.get? field.name = some value → value.Readable 125) :
    Json.Submits (Json.obj [(r.schema.typeName, r.render links)]).bytes r.schema.typeName (r.members links).entries := by
  have readable := r.readable_members links (by decide) values
  refine ⟨_, _, Json.Readable.ofBytes?_bytes (.obj (List.pairwise_singleton _ _) ?_), if_pos rfl, .inl rfl⟩
  intro member among
  rw [List.mem_singleton.1 among]
  exact readable

end Record

/-! ## Data sources that merge -/

/-- A data source that is given values of an entity that it has sets these and keeps the others. -/
def Source.Merges (source : Source σ) : Prop :=
  ∀ (sent stored : Entity) (request : Request) (s : σ), (source.fetch sent.id request s).1 = .ok stored →
    ∃ t, source.update sent s = (.ok (), t) ∧ ∀ later, (source.fetch sent.id later t).1 = .ok (stored.merge sent)

/-- A change that no controller decides on goes to the data source, and nothing is shown of it. -/
theorem Registry.act_update (registry : Registry σ) (mount : Mount) {r : Resource σ} (registered : r ∈ registry.resources)
    (free : r.controller = none) {request : Request} (put : request.method = .put) (addressed : request.resource = r.typeName)
    {id : String} (one : request.ids = [id]) {sent : Entity}
    (asked : r.offering.hook request .update = .ok (some (.update sent))) {s t : σ}
    (done : r.source.update sent s = (.ok (), t)) :
    ((registry.api mount).perform .element request).act registry.backend s = (.ok (.noContent none), t) := by
  have served : registry.lookup? r.typeName = some r := lookup?_of_mem registered
  have picked : Operation.of .element request.method request.ids.length = .ok .update := by rw [put, one]; rfl
  have updated : (r.offering.own request (.update sent)).act registry.backend s = (.ok (), t) := by
    change registry.backend (.update r.typeName sent) s = _
    rw [backend_of_some (.update r.typeName sent) served]
    exact done
  rw [registry.perform_of_served mount .element request (addressed ▸ served) picked,
    Api.performOn_of_not_controlled _ _ _ _ (congrArg Option.isSome free) asked, Engine.act_bind_ok _ updated]
  rfl

/-- A request to change an entity to what was read under its own id is accepted. -/
theorem Offering.hook_update {o : Offering} {request : Request} {sent : Entity} (one : request.ids = [sent.id])
    (accepted : Entity.ofBody o.schema request.body = .ok sent) :
    o.hook request .update = .ok (some (.update sent)) := by
  have placed : sent.under sent.id = .ok sent := Entity.under_eq_ok_iff.2 ⟨.inr rfl, rfl⟩
  unfold hook
  rw [Request.onlyId_eq_ok_iff.2 one, accepted]
  change (do
    let entity ← sent.under sent.id
    return some (Hook.update entity) : Except Refusal (Option Hook)) = _
  rw [placed]
  rfl

/-- Whatever is read from a rendered record is rendered as the record, and every attribute that is set is read as it is
rendered. Where no attribute is named `id`, an entity is read, and it has the id of the record. Then a body that is read as the
record, as the bytes of the record are if its values are, is accepted as a change to the entity of this id; and after that
change a data source that merges what it is given has an entity that is rendered as before. -/
theorem resubmission_shows_nothing_new (schema : Schema) (entity : Entity) (links : Links) :
    let record : Record := ⟨schema, entity⟩
    ∃ members, record.render links = .obj members ∧
      (∀ reread, Entity.ofMembers schema members = .ok reread →
        (⟨schema, reread⟩ : Record).render links = record.render links ∧
          ∀ field ∈ schema.attributes, ∀ value, entity.get? field.name = some value →
            ∃ shown, Entries.find? field.name members = some shown ∧ reread.get? field.name = some shown) ∧
      ((∀ field ∈ schema.attributes, field.name ≠ "id") →
        ∃ reread, Entity.ofMembers schema members = .ok reread ∧ reread.id = entity.id ∧
          ((∀ field ∈ schema.attributes, ∀ value, entity.get? field.name = some value → value.Readable 125) →
            Json.Submits (Json.obj [(schema.typeName, record.render links)]).bytes schema.typeName members) ∧
          ∀ (σ : Type) (registry : Registry σ) (mount : Mount), ∀ r ∈ registry.resources, r.schema = schema →
            ∀ request : Request, request.method = .put → request.resource = r.typeName → request.ids = [entity.id] →
              Json.Submits request.body schema.typeName members →
                r.offering.hook request .update = .ok (some (.update reread)) ∧
                  (r.controller = none → r.source.Merges → ∀ earlier s, (r.source.fetch entity.id earlier s).1 = .ok entity →
                    let run := ((registry.api mount).perform .element request).run.run registry.backend s
                    run.value = .ok (.noContent none) ∧ ∀ later, ∃ stored,
                      (r.source.fetch entity.id later run.state).1 = .ok stored ∧ stored.id = entity.id ∧
                        ∀ links', (⟨schema, stored⟩ : Record).render links' = record.render links')) := by
  intro record
  have rendered {other : Entity}
      (agrees : ∀ field ∈ schema.attributes, other.get? field.name = (record.members links).get? field.name)
      (named : other.id = entity.id ∨ ∃ field ∈ schema.attributes, field.name = "id") (links' : Links) :
      (⟨schema, other⟩ : Record).render links' = record.render links' :=
    congrArg Json.object (record.members_of_agrees links agrees named links')
  refine ⟨(record.members links).entries, rfl, fun reread accepted => ⟨?_, fun field declared value set => ?_⟩,
    fun unshadowed => ?_⟩
  · refine rendered (fun field declared => record.get?_reread links accepted declared) ?_ links
    by_cases unshadowed : ∀ field ∈ schema.attributes, field.name ≠ "id"
    · obtain ⟨only, read, named⟩ := record.exists_reread links unshadowed
      obtain rfl := Except.ok.inj (read.symm.trans accepted)
      exact .inl named
    · exact .inr (by simpa using unshadowed)
  · obtain ⟨shown, held⟩ := Option.isSome_iff_exists.1 (record.isSome_get?_members links declared set)
    exact ⟨shown, held, (record.get?_reread links accepted declared).trans held⟩
  · obtain ⟨reread, read, named⟩ := record.exists_reread links unshadowed
    refine ⟨reread, read, named, record.submits_render links, fun σ registry mount r registered same request put addressed
      one submits => ?_⟩
    subst same
    rw [← named] at one
    have asked := r.offering.hook_update one (submits.ofBody_eq.trans read)
    refine ⟨asked, fun free merges earlier s found => ?_⟩
    rw [← named] at found
    obtain ⟨t, done, kept⟩ := merges reread entity earlier s found
    have acted := registry.act_update mount registered free put addressed one asked done
    have state : (((registry.api mount).perform .element request).run.run registry.backend s).state = t :=
      congrArg Prod.snd acted
    refine ⟨congrArg Prod.fst acted, fun later => ⟨entity.merge reread, ?_, Entity.id_merge _ _, ?_⟩⟩
    · rw [state, ← named]
      exact kept later
    · refine rendered (fun field declared => ?_) (.inl (Entity.id_merge _ _))
      exact record.get?_merge_reread links (fun field declared => record.get?_reread links read declared) declared

/-! ## Users -/

/-- The users are merged with what is given of them. -/
theorem Users.merges_source (mint : Nat → String) : (source mint).Merges := by
  intro sent stored request users found
  have held : users.stored.get? sent.id = some stored := by
    change (fetch sent.id users).1 = .ok stored at found
    unfold fetch at found
    split at found
    · next user held =>
      cases found
      exact held
    · cases found
  refine ⟨{ users with stored := users.stored.insert sent.id (stored.merge sent) }, ?_, fun later => ?_⟩
  · change update sent users = _
    unfold update
    rw [held]
  · change (fetch sent.id _).1 = _
    unfold fetch
    simp only [SortedMap.get?_insert, if_true]

/-- A user is sent back as it is shown, and is shown so ever after. -/
theorem user_sent_back :
    let user := (Entity.bare "i").set "username" (.str "dora")
    let record : Record := ⟨Users.schema, user⟩
    let request : Request := ⟨.put, "users", ["i"], none, .empty, .empty,
      (Json.obj [(Users.schema.typeName, record.render SortedMap.empty)]).bytes⟩
    let run := (((Users.served Users.tally).api .root).perform .element request).run.run (Users.served Users.tally).backend
      ⟨SortedMap.empty.insert "i" user, 1⟩
    (∀ field ∈ Users.schema.attributes, field.name ≠ "id") ∧ (Users.source Users.tally).Merges ∧
      run.value = .ok (.noContent none) ∧ ∃ stored, (Users.fetch "i" run.state).1 = .ok stored ∧
        (⟨Users.schema, stored⟩ : Record).render SortedMap.empty = record.render SortedMap.empty := by
  intro user record request run
  have unshadowed : ∀ field ∈ Users.schema.attributes, field.name ≠ "id" := by
    rw [Users.attributes_schema]
    decide
  have values : ∀ field ∈ Users.schema.attributes, ∀ value, user.get? field.name = some value → value.Readable 125 := by
    rw [Users.attributes_schema]
    intro field among value set
    rw [List.mem_singleton.1 among] at set
    cases set
    exact .str "dora"
  obtain ⟨members, -, -, accepted⟩ := resubmission_shows_nothing_new Users.schema user SortedMap.empty
  obtain ⟨reread, -, -, submits, changes⟩ := accepted unshadowed
  obtain ⟨-, changed⟩ := changes Users (Users.served Users.tally) .root (Users.resource Users.tally) List.mem_cons_self rfl
    request rfl Users.typeName_schema.symm rfl (submits values)
  obtain ⟨done, later⟩ := changed rfl (Users.merges_source Users.tally) request
    ⟨SortedMap.empty.insert "i" user, 1⟩ rfl
  obtain ⟨stored, found, -, rendered⟩ := later request
  exact ⟨unshadowed, Users.merges_source Users.tally, done, stored, found, rendered SortedMap.empty⟩

/-- What a user holds under its name may be a number, and the user is sent back as it was shown. -/
def Users.sendingBack : List (String × RawRequest) :=
  [("1", .plain .post "/users" "\x7b\"users\": \x7b\"username\": \"dora\"\x7d\x7d"),
    ("2", .plain .put "/users/i" "\x7b\"users\": \x7b\"username\": 30e22\x7d\x7d"),
    ("3", .plain .get "/users/i" ""),
    ("4", .plain .put "/users/i" "\x7b\"users\":\x7b\"id\":\"i\",\"type\":\"users\",\"username\":3e+23\x7d\x7d"),
    ("5", .plain .get "/users/i" "")]

/-- A double that was shown may be read as the next to it: the body of the change is what the user was shown as, the change is
accepted, and then the user is shown with another value. -/
theorem doubles_read_beside :
    let run := (((Users.served Users.tally).api .root).respondAll Users.sendingBack).run
      (Users.served Users.tally).backend Users.empty
    run.value.map (fun response => (response.status, response.body.content)) =
      [(.created, Utf8.encode "\x7b\"data\":\x7b\"id\":\"i\",\"type\":\"users\",\"username\":\"dora\"\x7d\x7d"),
        (.noContent, []),
        (.ok, Utf8.encode "\x7b\"data\":\x7b\"id\":\"i\",\"type\":\"users\",\"username\":3e+23\x7d\x7d"),
        (.noContent, []),
        (.ok, Utf8.encode "\x7b\"data\":\x7b\"id\":\"i\",\"type\":\"users\",\"username\":2.9999999999999997e+23\x7d\x7d")] := by
  decide +kernel

end ResourceApi

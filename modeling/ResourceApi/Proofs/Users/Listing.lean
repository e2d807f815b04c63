import ResourceApi.Proofs.Data.SortedMap
import ResourceApi.Proofs.Entity.Submitted
import ResourceApi.Users.Store

/-!
# How users are listed

Whatever is done to the store, each user stands under its own id (`Users.keyed_edited`). So no two users are alike in name and
id, by which they are listed, and the listing strictly increases (`Users.precedes_listing`). A list that strictly increases is
known from its members (`Users.eq_of_precedes`), and so the listing is known from who is stored, in whatever order the users are
gone through and whatever was done before (`users_listed_canonically`).
-/

namespace ResourceApi

namespace Users

/-! ## What is done to the store -/

/-- Something done to the store. -/
inductive Edit where
  | create (user : Entity)
  | update (user : Entity)
  | delete (id : String)

/-- The store after an edit, which may be refused. -/
def edit (mint : Nat → String) (users : Users) : Edit → Users
  | .create user => ((source mint).create user users).2
  | .update user => ((source mint).update user users).2
  | .delete id => ((source mint).delete id users).2

/-- The store after some edits, at first without users. -/
def edited (mint : Nat → String) (edits : List Edit) : Users :=
  edits.foldl (edit mint) empty

/-- A user is stored. -/
def Holds (users : Users) (user : Entity) : Prop :=
  ∃ id, users.stored.get? id = some user

/-- Users have the ids under which they stand. -/
def Keyed (users : Users) : Prop :=
  ∀ id user, users.stored.get? id = some user → user.id = id

/-- No edit puts a user under another id. -/
theorem Keyed.edit {users : Users} (keyed : users.Keyed) (mint : Nat → String) (edit : Edit) :
    (users.edit mint edit).Keyed := by
  cases edit with
  | create user =>
    change (create mint user users).2.Keyed
    unfold create
    split
    · exact keyed
    · exact SortedMap.forall_get?_insert keyed rfl
  | update user =>
    change (update user users).2.Keyed
    unfold update
    split
    · next old stored => exact SortedMap.forall_get?_insert keyed ((Entity.id_merge old user).trans (keyed _ old stored))
    · exact keyed
  | delete id =>
    change (delete id users).2.Keyed
    unfold delete
    split
    · exact SortedMap.forall_get?_erase keyed id
    · exact keyed

/-- After any edits every user is stored under its own id. -/
theorem keyed_edited (mint : Nat → String) (edits : List Edit) : (edited mint edits).Keyed := by
  -- The induction is on the edits, and goes on from any store whose users stand under their ids.
  have onto (users : Users) (keyed : users.Keyed) : Keyed (edits.foldl (Users.edit mint) users) := by
    induction edits generalizing users with
    | nil => exact keyed
    | cons edit rest ih => exact ih _ (keyed.edit mint edit)
  exact onto empty fun _ _ h => nomatch h

/-! ## The order of the listing -/

/-- The name by which a user is listed. -/
def sortName (user : Entity) : String :=
  match user.get? "username" with
  | some (.str name) => name
  | _ => ""

/-- A user is listed before another: by its name, and of two of one name by its id. -/
def Precedes (a b : Entity) : Prop :=
  Text.before (sortName a) (sortName b) = true ∨ sortName a = sortName b ∧ Text.before a.id b.id = true

instance (a b : Entity) : Decidable (Precedes a b) :=
  inferInstanceAs (Decidable (_ ∨ _))

theorem username_eq_sortName (user : Entity) : username user = sortName user := by
  unfold username sortName Entity.text?
  cases user.get? "username" with
  | none => rfl
  | some value => cases value <;> rfl

/-- The comparison the listing sorts by decides the canonical order. -/
theorem listedBefore_iff {a b : Entity} : listedBefore a b = true ↔ Precedes a b := by
  simp [listedBefore, Precedes, username_eq_sortName]

theorem Precedes.trans {a b c : Entity} (h : Precedes a b) (h' : Precedes b c) : Precedes a c := by
  rcases h with before | ⟨same, before⟩
  · rcases h' with before' | ⟨same', -⟩
    · exact .inl (Text.before_trans before before')
    · exact .inl (same' ▸ before)
  · rcases h' with before' | ⟨same', before'⟩
    · exact .inl (same ▸ before')
    · exact .inr ⟨same.trans same', Text.before_trans before before'⟩

theorem Precedes.irrefl (a : Entity) : ¬Precedes a a := by
  simp [Precedes, Text.before_irrefl]

theorem Precedes.ne {a b : Entity} (h : Precedes a b) : a ≠ b :=
  fun same => irrefl b (same ▸ h)

/-- Only of users of one name and one id neither is listed before the other. -/
theorem precedes_trichotomy (a b : Entity) : Precedes a b ∨ (sortName a = sortName b ∧ a.id = b.id) ∨ Precedes b a := by
  rcases Text.before_trichotomy (sortName a) (sortName b) with before | same | before
  · exact .inl (.inl before)
  · rcases Text.before_trichotomy a.id b.id with before | sameId | before
    · exact .inl (.inr ⟨same, before⟩)
    · exact .inr (.inl ⟨same, sameId⟩)
    · exact .inr (.inr (.inr ⟨same.symm, before⟩))
  · exact .inr (.inr (.inl before))

/-- Not coming before is transitive as well. -/
theorem not_precedes_trans {a b c : Entity} (h : ¬Precedes b a) (h' : ¬Precedes c b) : ¬Precedes c a := by
  intro first
  refine h' ?_
  rcases precedes_trichotomy a b with before | ⟨sameName, sameId⟩ | after
  · exact first.trans before
  -- Users of one name and one id compare alike with any other.
  · unfold Precedes at first ⊢
    rwa [← sameName, ← sameId]
  · exact absurd after h

/-- Lists that strictly increase are equal if they have the same members. -/
theorem eq_of_precedes {listed listed' : List Entity} (increasing : listed.Pairwise Precedes)
    (increasing' : listed'.Pairwise Precedes) (same : ∀ user, user ∈ listed ↔ user ∈ listed') : listed = listed' := by
  have distinct {users : List Entity} (increasing : users.Pairwise Precedes) : users.Nodup :=
    increasing.imp Precedes.ne
  have perm : listed.Perm listed' := (List.perm_ext_iff_of_nodup (distinct increasing) (distinct increasing')).2 same
  exact perm.eq_of_pairwise (fun a b _ _ before after => absurd (before.trans after) (Precedes.irrefl a)) increasing
    increasing'

/-! ## The listing -/

/-- Nobody is listed after another whom he precedes. -/
theorem pairwise_listing (users : List Entity) : (listing users).Pairwise fun a b => ¬Precedes b a := by
  have iff (a b : Entity) : (!listedBefore b a) = true ↔ ¬Precedes b a := by
    rw [Bool.not_eq_true', ← listedBefore_iff, Bool.not_eq_true]
  have transitive (a b c : Entity) (h : (!listedBefore b a) = true) (h' : (!listedBefore c b) = true) :
      (!listedBefore c a) = true :=
    (iff a c).2 (not_precedes_trans ((iff a b).1 h) ((iff b c).1 h'))
  have total (a b : Entity) : (!listedBefore b a || !listedBefore a b) = true := by
    rw [Bool.or_eq_true, iff, iff]
    by_cases before : Precedes b a
    · exact .inr fun after => Precedes.irrefl a (after.trans before)
    · exact .inl before
  exact (List.pairwise_mergeSort transitive total users).imp fun {a b} => (iff a b).1

variable {users : Users}

/-- The listing has all users, and each once, in whatever order they are gone through. -/
theorem listing_spec (keyed : users.Keyed) {order : List Entity} (stored : order.Perm users.stored.values) :
    ((listing order).map Entity.id).Nodup ∧ ∀ user, user ∈ listing order ↔ users.Holds user := by
  have perm : (listing order).Perm users.stored.values := (List.mergeSort_perm _ _).trans stored
  have ids : users.stored.values.map Entity.id = users.stored.names := by
    unfold SortedMap.values SortedMap.names
    rw [List.map_map]
    refine List.map_congr_left fun entry hentry => ?_
    exact keyed _ _ (SortedMap.get?_eq_some_iff.2 hentry)
  constructor
  · rw [(perm.map Entity.id).nodup_iff, ids]
    exact users.stored.nodup_names
  · intro user
    rw [perm.mem_iff]
    exact SortedMap.mem_values_iff

/-- No two users have the same id, so each user precedes all that are listed after it. -/
theorem precedes_listing (keyed : users.Keyed) {order : List Entity} (stored : order.Perm users.stored.values) :
    (listing order).Pairwise Precedes := by
  have ids : (listing order).Pairwise fun a b => a.id ≠ b.id := List.pairwise_map.1 (listing_spec keyed stored).1
  refine (pairwise_listing order).imp₂ (fun a b after different => ?_) ids
  rcases precedes_trichotomy a b with before | same | before
  · exact before
  · exact absurd same.2 different
  · exact absurd before after

end Users

/-- After any edits of the store, all users are listed, each once, in the order of their names and then of their ids, where none
is listed beside another that is its equal in both. This is the listing in whatever order the users are gone through, and after
all other edits that leave the same users behind, whatever ids were made. -/
theorem users_listed_canonically (mint : Nat → String) (edits : List Users.Edit) (request : Request) :
    let users := Users.edited mint edits
    ∃ listed, (Users.source mint).list request users = (.ok listed, users) ∧
      (listed.map Entity.id).Nodup ∧ (∀ user, user ∈ listed ↔ users.Holds user) ∧ listed.Pairwise Users.Precedes ∧
      ∀ (mint' : Nat → String) (edits' : List Users.Edit),
        (∀ user, (Users.edited mint' edits').Holds user ↔ users.Holds user) →
          ∀ order, order.Perm (Users.edited mint' edits').stored.values → Users.listing order = listed := by
  intro users
  have keyed : users.Keyed := Users.keyed_edited mint edits
  obtain ⟨once, all⟩ := Users.listing_spec keyed (.refl _)
  have increasing := Users.precedes_listing keyed (.refl _)
  refine ⟨Users.listing users.stored.values, rfl, once, all, increasing, fun mint' edits' same order stored => ?_⟩
  have keyed' := Users.keyed_edited mint' edits'
  refine Users.eq_of_precedes (Users.precedes_listing keyed' stored) increasing fun user => ?_
  rw [(Users.listing_spec keyed' stored).2 user, all user]
  exact same user

namespace Users

/-- A user with a name. -/
def called (id name : String) : Entity :=
  (Entity.bare id).set "username" (.str name)

/-- A user whose name is a number. -/
def numbered (id : String) : Entity :=
  (Entity.bare id).set "username" (.num (.integer 5))

/-- Three users are added, and the name of the second becomes a number. One without a name is not added, one is removed again. -/
def history : List Edit :=
  [.create (called "" "bo"), .create (called "" "ada"), .create (called "" ""), .create (called "" "bo"),
    .create (called "" "cy"), .update (numbered "1"), .delete "3", .delete "3"]

/-- The same users are added with other names at first. -/
def otherHistory : List Edit :=
  [.create (called "" "bo"), .create (called "" "eve"), .update (numbered "1"), .create (called "" "dan"),
    .update (called "0" "bo")]

end Users

/-- Users of one name are listed by their ids, and one whose name is no text before all with names. The ids may be made the other
way round, and the users gone through from the last. -/
theorem tied_users_listed :
    let users := Users.edited Text.decimal Users.history
    let others := Users.edited (fun n => Text.decimal (2 - n)) Users.otherHistory
    let listed := [Users.numbered "1", Users.called "0" "bo", Users.called "2" "bo"]
    (Users.source Text.decimal).list (.collection "users") users = (.ok listed, users) ∧
      Users.listing others.stored.values.reverse = listed := by
  intro users others listed
  have same : others.stored = users.stored := SortedMap.ext rfl
  have held (user : Entity) : others.Holds user ↔ users.Holds user := by
    unfold Users.Holds
    rw [same]
  have values : users.stored.values = [Users.called "0" "bo", Users.numbered "1", Users.called "2" "bo"] := rfl
  have stored (user : Entity) : users.Holds user ↔ user ∈ listed := by
    refine SortedMap.mem_values_iff.symm.trans ?_
    rw [values]
    exact (List.Perm.swap _ _ _).mem_iff
  obtain ⟨found, told, -, all, increasing, always⟩ :=
    users_listed_canonically Text.decimal Users.history (.collection "users")
  obtain rfl : found = listed :=
    Users.eq_of_precedes increasing (by decide) fun user => (all user).trans (stored user)
  exact ⟨told, always _ Users.otherHistory held _ (List.reverse_perm _)⟩

end ResourceApi

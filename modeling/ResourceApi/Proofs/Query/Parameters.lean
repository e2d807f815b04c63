import ResourceApi.Proofs.Data.SortedMap
import ResourceApi.Proofs.Text.Escaped
import ResourceApi.Query

/-!
# Parameters of queries

The pairs of two queries that are joined are those of the first and then those of the second (`Form.pairs_append`), and what is
read under a name is the first value that it has in the pairs (`Query.get?_ofText`). So a query may be written in any order of its
names, with every byte of names and values escaped, and is read back (`Query.ofText_written`), and of two queries that are joined
the first counts (`parameters_read_back`).
-/

namespace ResourceApi

/-! ## Pairs of forms -/

namespace Form

/-- Forms that are joined by an ampersand are read one after the other. -/
theorem pairs_append (first later : String) : pairs (first ++ "&" ++ later) = pairs first ++ pairs later := by
  have joined : Utf8.encode (first ++ "&" ++ later) = Utf8.encode first ++ 0x26 :: Utf8.encode later := by
    rw [Utf8.encode_append, Utf8.encode_append, List.append_assoc]
    rfl
  unfold pairs
  rw [joined, Text.pieces_append_sep, List.filter_append, List.map_append]

/-- What holds no plus sign is decoded as it would be in a path. -/
theorem decode_encode {s : String} (free : '+' ∉ s.toList) : decode (Utf8.encode s) = Percent.decode s := by
  have none : 0x2B ∉ Utf8.encode s :=
    Utf8.notMem_encode (c := '+') (by decide) rfl free
  have kept : (Utf8.encode s).map (fun b => if b = 0x2B then 0x20 else b) = Utf8.encode s := by
    refine (List.map_congr_left fun b among => if_neg ?_).trans (List.map_id _)
    rintro rfl
    exact none among
  rw [decode, kept, Percent.decode]

/-- The first equals sign parts the name and the value. -/
theorem pair_encode {name : String} (whole : '=' ∉ name.toList) (value : String) :
    pair (Utf8.encode (name ++ "=" ++ value)) = (decode (Utf8.encode name), decode (Utf8.encode value)) := by
  have none : 0x3D ∉ Utf8.encode name :=
    Utf8.notMem_encode (c := '=') (by decide) rfl whole
  have before : ∀ b ∈ Utf8.encode name, (b != 0x3D) = true := by
    intro b among
    exact bne_iff_ne.2 fun same => none (same ▸ among)
  have joined : Utf8.encode (name ++ "=" ++ value) = Utf8.encode name ++ 0x3D :: Utf8.encode value := by
    rw [Utf8.encode_append, Utf8.encode_append, List.append_assoc]
    rfl
  unfold pair
  rw [joined, List.takeWhile_append_of_pos before, List.dropWhile_append_of_pos before]
  simp

/-- A text that means nothing to a form but itself, once it is decoded. -/
def Inert (s : String) : Prop :=
  ∀ c ∈ s.toList, c ≠ '&' ∧ c ≠ '=' ∧ c ≠ '+'

/-- A name and a value are read as they are, once they are decoded. -/
theorem pairs_of_inert {name value : String} (hname : Inert name) (hvalue : Inert value) :
    pairs (name ++ "=" ++ value) = [(Percent.decode name, Percent.decode value)] := by
  have whole : 0x26 ∉ Utf8.encode (name ++ "=" ++ value) := by
    refine Utf8.notMem_encode (c := '&') (by decide) rfl fun among => ?_
    simp only [String.toList_append, List.mem_append] at among
    rcases among with (own | separator) | own
    · exact (hname _ own).1 rfl
    · exact absurd separator (by decide)
    · exact (hvalue _ own).1 rfl
  have some : (Utf8.encode (name ++ "=" ++ value)).isEmpty = false := by
    rw [Utf8.encode_append, Utf8.encode_append]
    simp [Utf8.encode, Utf8.encodeChars]
  unfold pairs
  rw [Text.pieces_of_notMem whole, List.filter_cons_of_pos (by rw [some]; rfl), List.filter_nil, List.map_cons, List.map_nil,
    pair_encode fun own => (hname _ own).2.1 rfl, decode_encode fun own => (hname _ own).2.2 rfl,
    decode_encode fun own => (hvalue _ own).2.2 rfl]

end Form

namespace Query

/-! ## Queries as they are written -/

/-- A parameter with every byte of its name and its values escaped. The comma between two values may be escaped too. -/
def writtenParameter (comma : String) (parameter : String × List String) : String :=
  Percent.encode parameter.1 ++ "=" ++ Text.join comma (parameter.2.map Percent.encode)

/-- Parameters as a query. -/
def written (comma : String) (parameters : List (String × List String)) : String :=
  Text.join "&" (parameters.map (writtenParameter comma))

theorem inert_encode (s : String) : Form.Inert (Percent.encode s) := by
  intro c among
  rcases Percent.of_mem_encode among with rfl | alphanumeric
  · decide
  · refine ⟨?_, ?_, ?_⟩ <;> rintro rfl <;> revert alphanumeric <;> decide

variable {comma : String} (separates : comma ∈ [",", Percent.encode ","])

include separates

theorem inert_join_encode (values : List String) : Form.Inert (Text.join comma (values.map Percent.encode)) := by
  intro c among
  rcases Text.mem_toList_join among with separator | ⟨part, hpart, own⟩
  · simp only [List.mem_cons, List.not_mem_nil, or_false] at separates
    rcases separates with rfl | rfl
    · rw [show c = ',' by simpa using separator]
      decide
    · exact inert_encode _ c separator
  · obtain ⟨value, -, rfl⟩ := List.mem_map.1 hpart
    exact inert_encode value c own

/-- Values are decoded to the text in which they stand between commas. -/
theorem decode_join_encode (values : List String) :
    Percent.decode (Text.join comma (values.map Percent.encode)) = Text.join "," values := by
  simp only [List.mem_cons, List.not_mem_nil, or_false] at separates
  rcases separates with rfl | rfl
  · exact Percent.decode_join_encode ',' (by decide) values
  · rw [← Percent.encode_join, Percent.decode_encode]

/-- A written parameter is read as one pair with its values joined by commas. -/
theorem pairs_writtenParameter (parameter : String × List String) :
    Form.pairs (writtenParameter comma parameter) = [(parameter.1, Text.join "," parameter.2)] := by
  unfold writtenParameter
  rw [Form.pairs_of_inert (inert_encode _) (inert_join_encode separates _), Percent.decode_encode,
    decode_join_encode separates]

/-- Parameters are read in the order in which they are written. -/
theorem pairs_written (parameters : List (String × List String)) :
    Form.pairs (written comma parameters) = parameters.map fun p => (p.1, Text.join "," p.2) := by
  unfold written
  induction parameters with
  | nil => rfl
  | cons first rest ih =>
    cases rest with
    | nil => exact pairs_writtenParameter separates first
    | cons next rest =>
      rw [List.map_cons, Text.join_cons _ _ (by simp), Form.pairs_append, pairs_writtenParameter separates, ih]
      rfl

omit separates

/-! ## Queries as they are read -/

/-- A parameter that is entered only if new answers where nothing was entered before it. -/
theorem get?_insertNew (q : Query) (name : String) (values : List String) (other : String) :
    (q.insertNew name values).get? other = (q.get? other).or (if other = name then some values else none) := by
  unfold insertNew
  by_cases same : other = name
  · subst same
    unfold contains SortedMap.contains get?
    cases held : q.parameters.get? other with
    | none => simp [insert, SortedMap.get?_insert]
    | some old => simp [held]
  · rw [if_neg same, Option.or_none]
    split
    · rfl
    · exact (q.parameters.get?_insert name other values).trans (if_neg same)

/-- Under a name the first value counts that it has in the pairs, and it is cut at its commas. -/
theorem get?_ofText (s name : String) :
    (ofText s).get? name = Entries.find? name ((Form.pairs s).map fun p => (p.1, Text.split ',' p.2)) := by
  -- What is there already comes before all that is still to be read.
  have onto (pairs : List (String × String)) (q : Query) :
      (pairs.foldl (fun q pair => q.insertNew pair.1 (Text.split ',' pair.2)) q).get? name =
        (q.get? name).or (Entries.find? name (pairs.map fun p => (p.1, Text.split ',' p.2))) := by
    induction pairs generalizing q with
    | nil => exact Option.or_none.symm
    | cons pair rest ih =>
      rw [List.foldl_cons, ih, get?_insertNew, Option.or_assoc, List.map_cons, Entries.find?]
      split <;> rfl
  exact onto (Form.pairs s) empty

/-- A query is known from the values of its parameters. -/
theorem eq_of_get? {q q' : Query} (h : ∀ name, q.get? name = q'.get? name) : q = q' := by
  obtain ⟨parameters⟩ := q
  obtain ⟨parameters'⟩ := q'
  exact congrArg Query.mk (SortedMap.eq_of_get? h)

/-- The values of a parameter may be read back: there are some, and none holds a comma. -/
def Listable (values : List String) : Prop :=
  values ≠ [] ∧ ∀ value ∈ values, ',' ∉ value.toList

/-- What is read can be written. -/
theorem listable_of_get?_ofText {s name : String} {values : List String} (h : (ofText s).get? name = some values) :
    Listable values := by
  rw [get?_ofText] at h
  obtain ⟨⟨_, text⟩, -, same⟩ := List.mem_map.1 (Entries.mem_of_find? h)
  obtain rfl : Text.split ',' text = values := congrArg Prod.snd same
  exact ⟨Text.split_ne_nil text, fun _ => Text.notMem_of_mem_split⟩

/-- What is written is read, in whatever order it is written. -/
theorem ofText_written {comma : String} (separates : comma ∈ [",", Percent.encode ","]) {q : Query}
    (listable : ∀ parameter ∈ q.toList, Listable parameter.2) {parameters : List (String × List String)}
    (order : parameters.Perm q.toList) : ofText (written comma parameters) = q := by
  have read : (Form.pairs (written comma parameters)).map (fun p => (p.1, Text.split ',' p.2)) = parameters := by
    rw [pairs_written separates, List.map_map]
    refine (List.map_congr_left fun p among => ?_).trans (List.map_id _)
    obtain ⟨some, free⟩ := listable p (order.mem_iff.1 among)
    exact congrArg (Prod.mk p.1) (Text.parted_iff.1 ⟨some, rfl, free⟩)
  have distinct : (parameters.map Prod.fst).Nodup := (order.map Prod.fst).nodup_iff.2 q.parameters.nodup_names
  refine eq_of_get? fun name => ?_
  rw [get?_ofText, read]
  refine Option.ext fun values => ?_
  constructor
  · intro found
    exact SortedMap.get?_eq_some_iff.2 (order.mem_iff.1 (Entries.mem_of_find? found))
  · intro held
    exact Entries.find?_of_mem distinct (order.mem_iff.2 (SortedMap.get?_eq_some_iff.1 held))

end Query

/-- A query whose parameters have values, none of which holds a comma, is read back from what is written of it with every byte of
names and values escaped, in whatever order the parameters are written and whether the commas are escaped or not. Of two queries
that are joined by an ampersand the first counts: a name has the values that it has there, and only a name that has none there has
those of the second. And every query that is read has for each of its parameters a first value, and no value that holds a
comma. -/
theorem parameters_read_back :
    (∀ comma ∈ [",", Percent.encode ","], ∀ q : Query, (∀ parameter ∈ q.toList, Query.Listable parameter.2) →
        ∀ parameters, parameters.Perm q.toList → Query.ofText (Query.written comma parameters) = q) ∧
      (∀ first later name, (Query.ofText (first ++ "&" ++ later)).get? name =
        ((Query.ofText first).get? name).or ((Query.ofText later).get? name)) ∧
      ∀ s name, (∀ values, (Query.ofText s).get? name = some values → Query.Listable values) ∧
        (((Query.ofText s).first? name).isSome = true ↔ (Query.ofText s).contains name = true) := by
  refine ⟨fun comma separates q listable parameters order => Query.ofText_written separates listable order, ?_, ?_⟩
  · intro first later name
    simp only [Query.get?_ofText]
    rw [Form.pairs_append, List.map_append, Entries.find?_append]
  · intro s name
    refine ⟨fun values => Query.listable_of_get?_ofText, ?_⟩
    change ((((Query.ofText s).get? name).bind List.head?).isSome = true ↔ ((Query.ofText s).get? name).isSome = true)
    cases held : (Query.ofText s).get? name with
    | none => rfl
    | some values =>
      obtain ⟨value, more, rfl⟩ := List.exists_cons_of_ne_nil (Query.listable_of_get?_ofText held).1
      rfl

/-- Separators in a name, an empty name, an empty value, a value that looks escaped and characters of several bytes are all read
back from the other order of the names, with the commas escaped and without. -/
theorem unusual_parameters_read_back :
    ∃ q : Query, q.toList = [("", [""]), ("a&b=c", ["", "1 + 1", "é%2C"])] ∧
      (∀ comma ∈ [",", Percent.encode ","],
        Query.ofText (Query.written comma [("a&b=c", ["", "1 + 1", "é%2C"]), ("", [""])]) = q) ∧
      (q.first? "a&b=c").isSome = true ∧ Query.Listable ["", "1 + 1", "é%2C"] := by
  let q := (Query.empty.insert "a&b=c" ["", "1 + 1", "é%2C"]).insert "" [""]
  have listed : q.toList = [("", [""]), ("a&b=c", ["", "1 + 1", "é%2C"])] := by decide +kernel
  have listable : ∀ parameter ∈ q.toList, Query.Listable parameter.2 := by
    rw [listed]
    simp only [List.forall_mem_cons, Query.Listable]
    decide +kernel
  have order : [("a&b=c", ["", "1 + 1", "é%2C"]), ("", [""])].Perm q.toList := listed ▸ List.Perm.swap _ _ _
  have back : ∀ comma ∈ [",", Percent.encode ","],
      Query.ofText (Query.written comma [("a&b=c", ["", "1 + 1", "é%2C"]), ("", [""])]) = q :=
    fun comma separates => parameters_read_back.1 comma separates q listable _ order
  obtain ⟨read, given⟩ := parameters_read_back.2.2
    (Query.written "," [("a&b=c", ["", "1 + 1", "é%2C"]), ("", [""])]) "a&b=c"
  rw [back "," List.mem_cons_self] at read given
  exact ⟨q, listed, back, given.2 (by decide +kernel), read _ (by decide +kernel)⟩

end ResourceApi

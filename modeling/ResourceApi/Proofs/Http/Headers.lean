import ResourceApi.Http.Headers
import ResourceApi.Route.Mount

/-!
# Texts in header fields

A text may be the value of a header field if none of its bytes is a control character. So texts that may be put one after
another may be (`Headers.Sendable.append`), and the paths below a mount point may be if its segments may be
(`Mount.sendable_path`).
-/

namespace ResourceApi

/-- A text may stand in a header field. -/
def Headers.Sendable (text : String) : Prop :=
  ∀ b ∈ Utf8.encode text, Headers.isValueByte b = true

instance (text : String) : Decidable (Headers.Sendable text) :=
  inferInstanceAs (Decidable (∀ b ∈ Utf8.encode text, Headers.isValueByte b = true))

namespace Headers

/-- What may stand in a header field stands there in its bytes. -/
theorem value?_of_sendable {text : String} (h : Sendable text) : value? text = some (Utf8.encode text) :=
  if_pos (List.all_eq_true.2 h)

/-- The value of a header field is the text in bytes, if the text can be sent. -/
theorem eq_encode_of_value? {text : String} {value : Bytes} (h : value? text = some value) :
    value = Utf8.encode text := by
  simp only [value?] at h
  split at h
  · exact (Option.some.inj h).symm
  · cases h

/-- Setting a field replaces all its values and leaves the other fields as they are. -/
theorem values_set (h : Headers) (name other : String) (value : Bytes) :
    (h.set name value).values other = if other = name then [value] else h.values other := by
  unfold values set
  rw [SortedMap.get?_insert]
  split <;> rfl

/-- A field of another name is left as it is, whether the text may be sent or not. -/
theorem values_setText_of_ne (h : Headers) {name other : String} (different : other ≠ name) (text : String) :
    (h.setText name text).values other = h.values other := by
  unfold setText
  split
  · rw [values_set, if_neg different]
  · rfl

/-- Texts that can be sent can be sent as one. -/
theorem Sendable.append {first second : String} (h : Sendable first) (h' : Sendable second) :
    Sendable (first ++ second) := by
  intro b hb
  rw [Utf8.encode, String.toList_append, Utf8.encodeChars_append] at hb
  exact (List.mem_append.1 hb).elim (h b) (h' b)

end Headers

/-- The path of a mount point may stand in a header field if its segments may. -/
theorem Mount.sendable_path {mount : Mount} (h : ∀ segment ∈ mount.segments, Headers.Sendable segment) :
    Headers.Sendable mount.path := by
  obtain ⟨segments⟩ := mount
  have slash : Headers.Sendable "/" := by decide +kernel
  induction segments with
  | nil => exact List.forall_mem_nil _
  | cons segment rest ih =>
    have later := ih fun other hother => h other (List.mem_cons_of_mem _ hother)
    exact (slash.append (h segment List.mem_cons_self)).append later

end ResourceApi

/-!
# Cutting texts at a separator and joining them

`pieces` cuts a list at every occurrence of a separator. It keeps empty pieces and always yields at least one; who
wants none of the empty ones filters them out. The same function cuts texts at characters and byte strings at bytes.
-/

namespace ResourceApi.Text

/-- The parts of a list between the occurrences of a separator, empty ones included. -/
def pieces {α : Type} [DecidableEq α] (sep : α) : List α → List (List α)
  | [] => [[]]
  | a :: rest =>
    if a = sep then [] :: pieces sep rest
    else match pieces sep rest with
      | [] => [[a]]
      | piece :: more => (a :: piece) :: more

theorem pieces_ne_nil {α : Type} [DecidableEq α] (sep : α) (s : List α) : pieces sep s ≠ [] := by
  cases s with
  | nil => simp [pieces]
  | cons a rest =>
    simp only [pieces]
    split
    · simp
    · split <;> simp

/-- The parts of a text between the occurrences of a separator, empty ones included. -/
def split (sep : Char) (s : String) : List String :=
  (pieces sep s.toList).map String.ofList

/-- The non-empty parts of a text between the occurrences of a separator. -/
def splitNonEmpty (sep : Char) (s : String) : List String :=
  ((pieces sep s.toList).filter fun piece => !piece.isEmpty).map String.ofList

/-- Texts with a separator between each two neighbours. -/
def join (sep : String) : List String → String
  | [] => ""
  | [a] => a
  | a :: b :: rest => a ++ sep ++ join sep (b :: rest)

end ResourceApi.Text

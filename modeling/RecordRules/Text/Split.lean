/-!
# Splitting texts

`splitAll` cuts a text at every occurrence of a character; `joinWith` puts the pieces together
again.
-/

namespace RecordRules.Text

/-- The pieces of a text between the occurrences of a character; there is always one. -/
def splitAll (sep : Char) : List Char → List (List Char)
  | [] => [[]]
  | c :: rest =>
    if c = sep then [] :: splitAll sep rest
    else
      match splitAll sep rest with
      | [] => [[c]]
      | piece :: pieces => (c :: piece) :: pieces

/-- The pieces with a character between them. -/
def joinWith (sep : Char) : List (List Char) → List Char
  | [] => []
  | [piece] => piece
  | piece :: pieces => piece ++ sep :: joinWith sep pieces

/-- There is always a piece, though perhaps an empty one. -/
theorem splitAll_ne_nil (sep : Char) (s : List Char) : splitAll sep s ≠ [] := by
  cases s with
  | nil => simp [splitAll]
  | cons c rest =>
    simp only [splitAll]
    split
    · simp
    · split <;> simp

/-- Joining the pieces again gives the text. -/
theorem joinWith_splitAll (sep : Char) (s : List Char) : joinWith sep (splitAll sep s) = s := by
  induction s with
  | nil => rfl
  | cons c rest ih =>
    have hne := splitAll_ne_nil sep rest
    simp only [splitAll]
    split
    · rename_i h
      cases hs : splitAll sep rest with
      | nil => exact absurd hs hne
      | cons piece pieces =>
        rw [hs] at ih
        simp only [joinWith, ih, List.nil_append, h]
    · cases hs : splitAll sep rest with
      | nil => exact absurd hs hne
      | cons piece pieces =>
        rw [hs] at ih
        cases pieces with
        | nil => simpa [joinWith] using ih
        | cons p ps => simpa [joinWith] using ih

end RecordRules.Text

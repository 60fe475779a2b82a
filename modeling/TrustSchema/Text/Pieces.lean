/-!
# Pieces of a text

A text is cut at every occurrence of a separator; there is always one more piece than separators.
-/

namespace TrustSchema.Text

/-- The pieces of a text between the occurrences of a separator. -/
def pieces (separator : Char) : List Char → List (List Char)
  | [] => [[]]
  | c :: cs =>
    if c = separator then [] :: pieces separator cs
    else match pieces separator cs with
      | [] => [[c]]
      | piece :: rest => (c :: piece) :: rest

/-- The lines of a text: each ends with a newline, a carriage return before it belongs to the line
end, and a last line needs no newline. -/
def lines (cs : List Char) : List (List Char) :=
  let all := pieces '\n' cs
  let ended := all.dropLast.map fun line =>
    if line.getLast? = some '\r' then line.dropLast else line
  match all.getLast? with
  | none | some [] => ended
  | some last => ended ++ [last]

/-- Leaving characters out at the front does not make a text longer. -/
theorem length_dropWhile_le {α : Type} (p : α → Bool) (as : List α) :
    (as.dropWhile p).length ≤ as.length :=
  (List.dropWhile_suffix p).length_le

theorem pieces_ne_nil (separator : Char) (cs : List Char) : pieces separator cs ≠ [] := by
  cases cs with
  | nil => simp [pieces]
  | cons c cs =>
    rw [pieces]
    split
    · simp
    · split <;> simp

/-- Joining the pieces with the separator gives the text back. -/
theorem intercalate_pieces (separator : Char) (cs : List Char) :
    [separator].intercalate (pieces separator cs) = cs := by
  induction cs with
  | nil => rfl
  | cons c cs ih =>
    have hne := pieces_ne_nil separator cs
    rw [pieces]
    split
    · next h =>
      subst h
      cases hp : pieces c cs with
      | nil => exact absurd hp hne
      | cons piece rest => rw [hp] at ih; simpa [List.intercalate, List.intersperse] using ih
    · cases hp : pieces separator cs with
      | nil => exact absurd hp hne
      | cons piece rest =>
        rw [hp] at ih
        cases rest with
        | nil => simpa [List.intercalate, List.intersperse] using ih
        | cons p q => simpa [List.intercalate, List.intersperse] using ih

end TrustSchema.Text

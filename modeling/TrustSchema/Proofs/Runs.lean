/-!
# Runs at the front of a list

A reader takes elements off the front of a list as long as they satisfy a test. What it takes, and
what it leaves, is known where the list is put together from a run and something that does not
continue it.
-/

namespace TrustSchema

variable {α : Type} {p : α → Bool} {body behind : List α}

/-- A run is taken up to the first element that ends it. -/
theorem takeWhile_append_eq (hbody : ∀ a ∈ body, p a) (hends : ∀ a ∈ behind.head?, p a = false) :
    (body ++ behind).takeWhile p = body := by
  rw [List.takeWhile_append_of_pos hbody]
  cases behind with
  | nil => simp
  | cons a behind => simp [hends a rfl]

/-- What is left is what stands behind the run. -/
theorem dropWhile_append_eq (hbody : ∀ a ∈ body, p a) (hends : ∀ a ∈ behind.head?, p a = false) :
    (body ++ behind).dropWhile p = behind := by
  rw [List.dropWhile_append_of_pos hbody]
  cases behind with
  | nil => rfl
  | cons a behind => simp [hends a rfl]

/-- What is left does not go on with the run. -/
theorem head_dropWhile_eq_false {as : List α} : ∀ a ∈ (as.dropWhile p).head?, p a = false := by
  intro a ha
  have hfirst := List.head?_dropWhile_not p as
  rw [ha] at hfirst
  exact hfirst

end TrustSchema

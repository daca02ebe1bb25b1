/-
  Cutting a text at every occurrence of a character.

  `splitAt` loses nothing: the parts, joined by the character, are the text again
  (`joinWith_splitAt`), and no part holds the character (`not_mem_of_mem_splitAt`).
-/
import DocStub.Text.Lines

namespace DocStub.Text

/-- The parts of a text between the occurrences of `c`; a text without one is a single part. -/
def splitAt (c : Char) : Text → List Text
  | [] => [[]]
  | x :: r =>
    if x = c then [] :: splitAt c r
    else
      match splitAt c r with
      | [] => [[x]]
      | part :: parts => (x :: part) :: parts

/-- There is always a piece, be it empty. -/
theorem splitAt_ne_nil (c : Char) (s : Text) : splitAt c s ≠ [] := by
  cases s with
  | nil => simp [splitAt]
  | cons x r =>
    simp only [splitAt]
    split
    · simp
    · split <;> simp

/-- No piece has a separator in it. -/
theorem not_mem_of_mem_splitAt {c : Char} {s p : Text} (h : p ∈ splitAt c s) : c ∉ p := by
  induction s generalizing p with
  | nil => simp_all [splitAt]
  | cons x r ih =>
    simp only [splitAt] at h
    split at h
    · rcases List.mem_cons.1 h with rfl | h
      · simp
      · exact ih h
    · next hx =>
      split at h
      · next he => exact absurd he (splitAt_ne_nil c r)
      · next part parts he =>
        rw [he] at ih
        rcases List.mem_cons.1 h with rfl | h
        · simp only [List.mem_cons, not_or]
          exact ⟨Ne.symm hx, ih (by simp)⟩
        · exact ih (by simp [h])

/-- Nothing is lost: the pieces, joined by the separator, are the text. -/
theorem joinWith_splitAt (c : Char) (s : Text) : joinWith [c] (splitAt c s) = s := by
  induction s with
  | nil => rfl
  | cons x r ih =>
    simp only [splitAt]
    cases he : splitAt c r with
    | nil => exact absurd he (splitAt_ne_nil c r)
    | cons part parts =>
      rw [he] at ih
      by_cases hx : x = c
      · subst hx
        simp [joinWith, ih]
      · rw [if_neg hx, ← ih]
        cases parts <;> simp [joinWith]

end DocStub.Text

/-
  Words.

  1. **Cutting** — at a blank, the words of a text are those in front of it and those behind it
     (`words_append_blank`).  A text with a solid character has a word (`words_ne_nil`).
  2. **Single words** — a blank within a trimmed text has a word on either side, so a line that says
     something and is not several words is a single one (`isToken_of_isSeveralWords_eq_false`).
-/
import DocStub.Proofs.Text.Lines

namespace DocStub.Text

/-! ## Cutting -/

/-- A blank in front adds no word. -/
theorem words_cons_of_isBlank {c : Char} (hc : isBlank c = true) (s : Text) :
    words (c :: s) = words s := by
  show (if isBlank c then words s else _) = words s
  rw [if_pos hc]

theorem words_singleton {c : Char} (hc : ¬ isBlank c = true) : words [c] = [[c]] := by
  show (if isBlank c then ([] : List Text) else [[c]]) = [[c]]
  rw [if_neg hc]

/-- A solid character begins a word, or joins the one behind it. -/
theorem words_cons_ne_nil {c : Char} (hc : ¬ isBlank c = true) (s : Text) : words (c :: s) ≠ [] := by
  cases s with
  | nil => simp [words_singleton hc]
  | cons d r =>
    rw [words_cons_cons, if_neg hc]
    cases words (d :: r) with
    | nil => simp
    | cons w ws => cases isBlank d <;> simp

/-- No word spans a blank, so the words of both sides come one after the other. -/
theorem words_append_blank {c : Char} (hc : isBlank c = true) (x y : Text) :
    words (x ++ c :: y) = words x ++ words y := by
  induction x with
  | nil => exact words_cons_of_isBlank hc y
  | cons a x ih =>
    rw [List.cons_append]
    by_cases ha : isBlank a = true
    · rw [words_cons_of_isBlank ha, words_cons_of_isBlank ha, ih]
    · cases x with
      | nil =>
        -- the blank stands directly behind `a`, which is a word by itself
        rw [List.nil_append, words_cons_cons, if_neg ha, words_cons_of_isBlank hc, words_singleton ha]
        cases words y <;> simp [hc]
      | cons d x =>
        rw [List.cons_append, words_cons_cons, if_neg ha, words_cons_cons, if_neg ha, ← List.cons_append, ih]
        cases hw : words (d :: x) with
        | cons w ws => cases isBlank d <;> rfl
        | nil =>
          -- only blanks are left in front of the cut
          have hd : isBlank d = true := by
            by_contra hd
            exact words_cons_ne_nil hd x hw
          cases words y <;> simp [hd]

/-- A solid character belongs to a word. -/
theorem words_ne_nil {s : Text} (h : ∃ c ∈ s, isBlank c = false) : words s ≠ [] := by
  induction s with
  | nil => simp at h
  | cons c r ih =>
    by_cases hc : isBlank c = true
    · rw [words_cons_of_isBlank hc]
      obtain ⟨d, hd, hsolid⟩ := h
      rcases List.mem_cons.1 hd with rfl | hd
      · rw [hc] at hsolid
        cases hsolid
      · exact ih ⟨d, hd, hsolid⟩
    · exact words_cons_ne_nil hc r

/-! ## Single words -/

/-- A trimmed text with a blank in it has a word in front of the blank, and one behind it. -/
theorem isSeveralWords_of_isBlank {t : Text} (htrim : trim t = t) {c : Char} (hmem : c ∈ t)
    (hc : isBlank c = true) : isSeveralWords t = true := by
  obtain ⟨hhead, hlast⟩ := trim_eq_self_iff.1 htrim
  obtain ⟨x, y, rfl⟩ := List.append_of_mem hmem
  have hx : words x ≠ [] := by
    -- nothing in front would make the blank the first character
    cases x with
    | nil =>
      rw [hhead c rfl] at hc
      cases hc
    | cons a x => exact words_ne_nil ⟨a, List.mem_cons_self, hhead a rfl⟩
  have hy : words y ≠ [] := by
    -- nothing behind would make the blank the last character
    cases hend : y.getLast? with
    | none =>
      rw [hlast c (by simp [List.getLast?_eq_none_iff.1 hend])] at hc
      cases hc
    | some b =>
      refine words_ne_nil ⟨b, List.mem_of_getLast? hend, hlast b ?_⟩
      rw [List.getLast?_append, List.getLast?_cons, hend]
      rfl
  have hlx := List.length_pos_iff.2 hx
  have hly := List.length_pos_iff.2 hy
  simp only [isSeveralWords, words_append_blank hc, List.length_append, decide_eq_true_eq]
  omega

/-- A trimmed line that is not prose is one word. -/
theorem isToken_of_isSeveralWords_eq_false {t : Text} (hne : t ≠ []) (htrim : trim t = t)
    (h : isSeveralWords t = false) : IsToken t where
  ne_nil := hne
  solid c hmem := by
    by_contra hc
    rw [isSeveralWords_of_isBlank htrim hmem (by simpa using hc)] at h
    cases h

end DocStub.Text

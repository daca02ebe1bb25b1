/-
  What the lines of a text say.

  1. **Pieces and lines** — a text can be cut at its newlines in two ways.  `splitAt` keeps what stands between them;
     `lines` leaves out a carriage return in front of a newline, and the piece behind the last newline if it is
     empty.  So the pieces are the lines with blanks behind them (`IsPadded`), and at most one empty piece more
     (`emptyEnd`): `forall₂_splitAt_lines`.
  2. **Content** — trimming takes these blanks, and the empty piece says nothing, so the content of a text is that of
     its pieces (`contentLines_eq_contentOf`).
  3. **Joining** — the pieces of two texts with a newline in between are those of the one and those of the
     other, and so is their content (`contentLines_append_newline`).  Lines of content are read back from
     any text that joins them, whatever blanks are put in front of the newlines (`contentLines_joinWith`).
-/
import DocStub.Proofs.Text.Lines

namespace DocStub.Text

/-! ## Pieces and lines -/

/-- The piece is the line with blanks behind it. -/
def IsPadded (line piece : Text) : Prop := ∃ v, (∀ c ∈ v, isBlank c = true) ∧ piece = line ++ v

/-- The piece behind the last newline, if it is empty. -/
def emptyEnd (s : Text) : List Text := if s.getLast?.all (· = '\n') then [[]] else []

/-- A newline in front does not change how a text ends, not even that of the empty text. -/
theorem emptyEnd_newline_cons (s : Text) : emptyEnd ('\n' :: s) = emptyEnd s := by
  rw [emptyEnd, emptyEnd, List.getLast?_cons]
  cases s.getLast? <;> rfl

theorem emptyEnd_cons_of_ne_nil {s : Text} (h : s ≠ []) (c : Char) : emptyEnd (c :: s) = emptyEnd s := by
  obtain ⟨d, r, rfl⟩ := List.exists_cons_of_ne_nil h
  rw [emptyEnd, emptyEnd, List.getLast?_cons_cons]

/-- There is at most one empty piece behind the last newline. -/
theorem emptyEnd_eq_or (s : Text) : emptyEnd s = [] ∨ emptyEnd s = [[]] := by
  rw [emptyEnd]
  split
  · exact Or.inr rfl
  · exact Or.inl rfl

/-- The empty piece has nothing to trim. -/
theorem map_trim_emptyEnd (s : Text) : (emptyEnd s).map trim = emptyEnd s := by
  rw [emptyEnd]
  split <;> rfl

theorem IsPadded.refl (l : Text) : IsPadded l l := ⟨[], List.forall_mem_nil _, (List.append_nil l).symm⟩

theorem IsPadded.cons {l p : Text} (h : IsPadded l p) (c : Char) : IsPadded (c :: l) (c :: p) := by
  obtain ⟨v, hv, rfl⟩ := h
  exact ⟨v, hv, rfl⟩

/-- Padding is blank, so it goes when the line is trimmed. -/
theorem IsPadded.trim_eq {l p : Text} (h : IsPadded l p) : trim p = trim l := by
  obtain ⟨v, hv, rfl⟩ := h
  exact trim_append_blanks hv l

/-- A character that is no separator goes to the front of the first piece. -/
theorem splitAt_cons_of_ne {c d : Char} (h : d ≠ c) (s : Text) :
    ∃ p ps, splitAt c s = p :: ps ∧ splitAt c (d :: s) = (d :: p) :: ps := by
  obtain ⟨p, ps, hs⟩ := List.exists_cons_of_ne_nil (splitAt_ne_nil c s)
  exact ⟨p, ps, hs, by rw [splitAt, if_neg h, hs]⟩

/-- Only the empty text has no lines. -/
theorem lines_eq_nil_iff {s : Text} : lines s = [] ↔ s = [] := by
  constructor
  · intro h
    fun_cases lines s with
    | case1 => rfl
    | case2 | case3 => cases h
    | case4 c r hc hr hl => simp [lines.eq_4 c r hc hr, hl] at h
    | case5 c r hc hr k ks hl => simp [lines.eq_4 c r hc hr, hl] at h
  · rintro rfl
    rfl

/-- The pieces are the lines with blanks behind them, and the empty end. -/
theorem forall₂_splitAt_lines (s : Text) : List.Forall₂ IsPadded (lines s ++ emptyEnd s) (splitAt '\n' s) := by
  induction s using lines.induct with
  | case1 => exact .cons (.refl []) .nil
  | case2 r ih =>
    rw [emptyEnd_newline_cons]
    exact .cons (.refl []) ih
  | case3 r ih =>
    -- the carriage return is a blank behind an empty line
    have hreturn : IsPadded [] ['\r'] := ⟨['\r'], List.forall_mem_singleton.2 rfl, rfl⟩
    rw [emptyEnd_cons_of_ne_nil (List.cons_ne_nil _ _), emptyEnd_newline_cons]
    exact .cons hreturn ih
  | case4 c r hc hr hl ih =>
    obtain rfl := lines_eq_nil_iff.1 hl
    have hend : emptyEnd [c] = [] := by
      rw [emptyEnd]
      simpa using hc
    have hpieces : splitAt '\n' [c] = [[c]] := splitAt_eq_singleton (by simpa using Ne.symm hc)
    rw [lines.eq_4 c [] hc hr, hl, hend, hpieces]
    exact .cons (.refl [c]) .nil
  | case5 c r hc hr l ls hl ih =>
    have hne : r ≠ [] := by
      rintro rfl
      cases hl
    obtain ⟨p, ps, hs, hcs⟩ := splitAt_cons_of_ne (show c ≠ '\n' from hc) r
    rw [hl, hs] at ih
    obtain ⟨hp, hps⟩ := List.forall₂_cons.1 ih
    rw [lines.eq_4 c r hc hr, hl, hcs, emptyEnd_cons_of_ne_nil hne]
    exact .cons (hp.cons c) hps

/-- Lines and padded lines are the same once they are trimmed. -/
theorem map_trim_eq_of_forall₂ {ls ps : List Text} (h : List.Forall₂ IsPadded ls ps) : ps.map trim = ls.map trim := by
  induction h with
  | nil => rfl
  | cons hp _ ih => rw [List.map_cons, List.map_cons, hp.trim_eq, ih]

/-- Once they are trimmed, the pieces between newlines are the lines, and maybe an empty piece at the end. -/
theorem map_trim_splitAt (s : Text) : (splitAt '\n' s).map trim = (lines s).map trim ++ emptyEnd s := by
  rw [map_trim_eq_of_forall₂ (forall₂_splitAt_lines s), List.map_append, map_trim_emptyEnd]

/-! ## Content -/

/-- The lines that say something, trimmed. -/
def contentOf (ls : List Text) : List Text := (ls.map trim).filter (· != [])

/-- A blank line says nothing. -/
theorem contentOf_cons_of_eq_nil {l : Text} (h : trim l = []) (ls : List Text) :
    contentOf (l :: ls) = contentOf ls := by
  simp [contentOf, h]

/-- A line that is not blank says what is left of it when it is trimmed. -/
theorem contentOf_cons_of_ne_nil {l : Text} (h : trim l ≠ []) (ls : List Text) :
    contentOf (l :: ls) = trim l :: contentOf ls := by
  simp [contentOf, h]

theorem contentOf_append (ks ls : List Text) : contentOf (ks ++ ls) = contentOf ks ++ contentOf ls := by
  simp [contentOf]

/-- The rule of cutting does not matter for what a text says. -/
theorem contentLines_eq_contentOf (s : Text) : contentLines s = contentOf (splitAt '\n' s) := by
  have hend : (emptyEnd s).filter (· != []) = [] := by
    rw [emptyEnd]
    split <;> rfl
  rw [contentOf, map_trim_splitAt, List.filter_append, hend, List.append_nil]
  rfl

example : let s := "\n  a  \n\n\t\nb\r\n".toList
    contentLines s = ["a".toList, "b".toList] ∧ contentOf (splitAt '\n' s) = ["a".toList, "b".toList] := by decide

/-! ## Joining -/

/-- A newline is a seam: what stands in front of it and what stands behind it are read apart. -/
theorem contentLines_append_newline (a b : Text) :
    contentLines (a ++ '\n' :: b) = contentLines a ++ contentLines b := by
  rw [contentLines_eq_contentOf, splitAt_append_cons, contentOf_append, ← contentLines_eq_contentOf,
    ← contentLines_eq_contentOf]

/-- A line of content says itself, also with blanks behind it. -/
theorem IsContent.contentLines_append {l : Text} (h : IsContent l) {v : Text} (hv : ∀ c ∈ v, isBlank c = true)
    (hn : '\n' ∉ v) : contentLines (l ++ v) = [l] := by
  have hline : '\n' ∉ l ++ v := fun hmem => (List.mem_append.1 hmem).elim h.newline hn
  have htrim : trim (l ++ v) = l := by rw [trim_append_blanks hv, h.trimmed]
  have hne : trim (l ++ v) ≠ [] := by
    rw [htrim]
    exact h.ne_nil
  rw [contentLines_eq_contentOf, splitAt_eq_singleton hline, contentOf_cons_of_ne_nil hne, htrim]
  rfl

/-- Lines of content are found again when they are joined by newlines with blanks in front of them. -/
theorem contentLines_joinWith {v : Text} (hv : ∀ c ∈ v, isBlank c = true) (hn : '\n' ∉ v) {ls : List Text}
    (h : ∀ l ∈ ls, IsContent l) : contentLines (joinWith (v ++ ['\n']) ls) = ls := by
  induction ls with
  | nil => rfl
  | cons l ls ih =>
    obtain ⟨hl, hls⟩ := List.forall_mem_cons.1 h
    cases ls with
    | nil =>
      -- nothing stands behind the last line
      have hself := hl.contentLines_append (v := []) (List.forall_mem_nil _) List.not_mem_nil
      rwa [List.append_nil] at hself
    | cons k ks =>
      have htext : joinWith (v ++ ['\n']) (l :: k :: ks)
          = (l ++ v) ++ '\n' :: joinWith (v ++ ['\n']) (k :: ks) := by
        rw [joinWith_cons _ l (List.cons_ne_nil k ks)]
        simp only [List.append_assoc, List.singleton_append]
      rw [htext, contentLines_append_newline, hl.contentLines_append hv hn, ih hls]
      rfl

/-- **Content line by line.**  What two texts say that meet at a newline is what the one says and what the other says;
    every line of it is a line of content, and all lists of such lines are the content of some text: of the one that
    joins them by newlines, with or without carriage returns.  So joining the content changes nothing. -/
theorem contentLines_append_joinWith :
    (∀ a b, contentLines (a ++ ['\n'] ++ b) = contentLines a ++ contentLines b)
    ∧ (∀ s, ∀ l ∈ contentLines s, IsContent l)
    ∧ (∀ ls, (∀ l ∈ ls, IsContent l) →
        contentLines (joinWith ['\n'] ls) = ls ∧ contentLines (joinWith ['\r', '\n'] ls) = ls)
    ∧ ∀ s, contentLines (joinWith ['\n'] (contentLines s)) = contentLines s := by
  have hjoin (ls : List Text) (h : ∀ l ∈ ls, IsContent l) : contentLines (joinWith ['\n'] ls) = ls :=
    contentLines_joinWith (v := []) (List.forall_mem_nil _) List.not_mem_nil h
  refine ⟨?_, ?_, ?_, ?_⟩
  · intro a b
    rw [List.append_assoc]
    exact contentLines_append_newline a b
  · intro s l hl
    exact isContent_of_mem_contentLines hl
  · intro ls h
    exact ⟨hjoin ls h, contentLines_joinWith (v := ['\r']) (List.forall_mem_singleton.2 rfl) (by decide) h⟩
  · intro s
    exact hjoin (contentLines s) fun l hl => isContent_of_mem_contentLines hl

/-- Blanks and carriage returns within lines stay. -/
theorem contentLines_append_joinWith_sample :
    let ls := ["f(1)  -- é".toList, "a\rb".toList]
    (∀ l ∈ ls, IsContent l) ∧ contentLines "f(1)  -- é\r\na\rb".toList = ls := by
  intro ls
  have hls : ∀ l ∈ ls, IsContent l := by
    refine List.forall_mem_cons.2 ⟨⟨by decide, by decide, by decide⟩, List.forall_mem_singleton.2 ?_⟩
    exact ⟨by decide, by decide, by decide⟩
  exact ⟨hls, (contentLines_append_joinWith.2.2.1 ls hls).2⟩

end DocStub.Text

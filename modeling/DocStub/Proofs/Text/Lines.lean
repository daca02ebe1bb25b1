/-
  Lines, and the texts that are made of them.

  1. **Content** — `IsContent` is what a line is that says something: not empty, trimmed, without a newline.
     `contentLines` gives such lines only (`isContent_of_mem_contentLines`).
  2. **Writing lines** — `unlines` puts a newline behind every line.  Cutting the text at its newlines gives
     the lines back, under both rules of cutting (`lines_unlines`, `splitAt_unlines`), and so does reading
     its content (`contentLines_unlines`).
  3. **Words across lines** — a word without a newline stands in front of a newline or behind it
     (`word_front_or_behind`).  So if it occurs in a text of lines, it occurs in one of them
     (`exists_infix_of_infix_unlines`).
  4. **Lines of a part** — a line of a part of a text lies within a line of the text
     (`exists_infix_trim_of_mem_lines`).
-/
import DocStub.Proofs.Text.Trim
import DocStub.Text.Lines
import DocStub.Text.Split

namespace DocStub.Text

/-- A line that says something. -/
structure IsContent (l : Text) : Prop where
  ne_nil : l ≠ []
  trimmed : trim l = l
  newline : '\n' ∉ l

/-- A single word. -/
structure IsToken (t : Text) : Prop where
  ne_nil : t ≠ []
  solid : ∀ c ∈ t, isBlank c = false

/-- A test for single words. -/
theorem isToken_of_all {t : Text} (hne : t ≠ []) (h : t.all (!isBlank ·) = true) : IsToken t :=
  ⟨hne, fun c hc => by simpa using List.all_eq_true.1 h c hc⟩

instance (t : Text) : Decidable (IsToken t) :=
  decidable_of_iff (t ≠ [] ∧ t.all (!isBlank ·) = true)
    ⟨fun h => isToken_of_all h.1 h.2, fun h => ⟨h.ne_nil, List.all_eq_true.2 fun c hc => by simp [h.solid c hc]⟩⟩

/-- The lines, each with its end. -/
def unlines (ls : List Text) : Text := ls.flatMap fun l => l ++ ['\n']

@[simp] theorem unlines_nil : unlines [] = [] := rfl

@[simp] theorem unlines_cons (l : Text) (ls : List Text) :
    unlines (l :: ls) = l ++ '\n' :: unlines ls := by
  simp [unlines]

theorem unlines_append (ks ls : List Text) : unlines (ks ++ ls) = unlines ks ++ unlines ls :=
  List.flatMap_append

theorem joinWith_cons (separator t : Text) {ts : List Text} (h : ts ≠ []) :
    joinWith separator (t :: ts) = t ++ separator ++ joinWith separator ts := by
  rw [joinWith]
  exact h

/-- With a newline at the end, joining lines is ending each of them. -/
theorem joinWith_newline {ls : List Text} (h : ls ≠ []) : joinWith ['\n'] ls ++ ['\n'] = unlines ls := by
  induction ls with
  | nil => exact absurd rfl h
  | cons l ls ih =>
    cases ls with
    | nil => simp [joinWith]
    | cons k ks =>
      rw [joinWith_cons _ l (List.cons_ne_nil k ks), List.append_assoc, ih (List.cons_ne_nil k ks), unlines_cons l,
        List.append_assoc, List.singleton_append]

/-- Lines that are all ended end in a newline. -/
theorem getLast?_unlines {ls : List Text} (h : ls ≠ []) : (unlines ls).getLast? = some '\n' := by
  obtain ⟨ks, l, rfl⟩ := (List.eq_nil_or_concat ls).resolve_left h
  rw [List.concat_eq_append, unlines_append, unlines_cons, unlines_nil, ← List.append_assoc]
  exact List.getLast?_concat

/-! ## Words -/

/-- The words of a text of two characters and more, without a look at the rest. -/
theorem words_cons_cons (c d : Char) (r : Text) :
    words (c :: d :: r) =
      if isBlank c then words (d :: r)
      else
        match words (d :: r) with
        | [] => [[c]]
        | w :: ws => if isBlank d then [c] :: w :: ws else (c :: w) :: ws := by
  show (if isBlank c then _ else _) = _
  cases words (d :: r) <;> rfl

/-- A word without a blank has no second word in it. -/
theorem length_words_le_one : ∀ {t : Text}, (∀ c ∈ t, isBlank c = false) → (words t).length ≤ 1
  | [], _ => Nat.zero_le 1
  | [c], _ => by
    show (if isBlank c then ([] : List Text) else [[c]]).length ≤ 1
    split <;> simp
  | c :: d :: r, h => by
    have ih := length_words_le_one fun x hx => h x (List.mem_cons_of_mem c hx)
    rw [words_cons_cons, if_neg (by simp [h c])]
    cases hw : words (d :: r) with
    | nil => simp
    | cons w ws =>
      rw [hw] at ih
      simpa [h d] using ih

/-- A token is one word, so it is not taken for prose. -/
theorem IsToken.isSeveralWords {t : Text} (h : IsToken t) : isSeveralWords t = false := by
  have hle := length_words_le_one h.solid
  simp only [Text.isSeveralWords, decide_eq_false_iff_not]
  omega

/-- A token has no blanks at all, so none at its ends and no newline. -/
theorem IsToken.isContent {t : Text} (h : IsToken t) : IsContent t where
  ne_nil := h.ne_nil
  trimmed := trim_eq_self_iff.2
    ⟨fun c hc => h.solid c (List.mem_of_mem_head? hc), fun c hc => h.solid c (List.mem_of_getLast? hc)⟩
  newline := fun hmem => absurd (h.solid _ hmem) (by decide)

/-! ## Cutting at newlines -/

/-- The three line ends are told apart by their first characters; any other character goes on with the
    line that follows. -/
theorem lines_cons {c : Char} {s : Text} (hc : c ≠ '\n') (hs : c = '\r' → s.head? ≠ some '\n') :
    lines (c :: s) = (c :: (lines s).head?.getD []) :: (lines s).tail := by
  rw [lines.eq_4 c s (by exact hc) (by rintro r rfl rfl; exact hs rfl rfl)]
  cases lines s <;> rfl

/-- No line has a newline in it. -/
theorem not_mem_of_mem_lines {l s : Text} (h : l ∈ lines s) : '\n' ∉ l := by
  induction s using lines.induct generalizing l with
  | case1 => simp [lines] at h
  | case2 r ih =>
    rcases List.mem_cons.1 h with rfl | h
    · exact List.not_mem_nil
    · exact ih h
  | case3 r ih =>
    rcases List.mem_cons.1 h with rfl | h
    · exact List.not_mem_nil
    · exact ih h
  | case4 c r hc hr hl ih =>
    rw [lines.eq_4 c r hc hr, hl] at h
    rw [List.mem_singleton.1 h]
    simpa using Ne.symm hc
  | case5 c r hc hr k ks hl ih =>
    -- the character joins the first line of the rest
    rw [lines.eq_4 c r hc hr, hl] at h
    rw [hl] at ih
    rcases List.mem_cons.1 h with rfl | h
    · exact List.not_mem_cons_of_ne_of_not_mem (Ne.symm hc) (ih List.mem_cons_self)
    · exact ih (List.mem_cons_of_mem k h)

/-- A line that does not end in a carriage return is cut off as it is. -/
theorem lines_append_newline {l : Text} (hl : '\n' ∉ l) (hr : l.getLast? ≠ some '\r') (s : Text) :
    lines (l ++ '\n' :: s) = l :: lines s := by
  induction l with
  | nil => rfl
  | cons c r ih =>
    obtain ⟨hc, hl⟩ := not_or.1 (mt List.mem_cons.2 hl)
    -- a carriage return in front of the newline would be taken for a part of the line end
    have hrest : c = '\r' → (r ++ '\n' :: s).head? ≠ some '\n' := by
      rintro rfl
      cases r with
      | nil => exact absurd rfl hr
      | cons d r => simpa using fun h => hl (by simp [h])
    have ih := ih hl (by
      cases r with
      | nil => simp
      | cons d r => simpa [List.getLast?_cons_cons] using hr)
    rw [List.cons_append, lines_cons (Ne.symm hc) hrest, ih]
    rfl

/-- A trimmed line does not end in a carriage return. -/
theorem getLast?_ne_of_trimmed {l : Text} (h : trim l = l) : l.getLast? ≠ some '\r' := by
  intro hlast
  exact absurd ((trim_eq_self_iff.1 h).2 _ hlast) (by decide)

/-- Trimmed lines that are ended one by one are found again. -/
theorem lines_unlines {ls : List Text} (h : ∀ l ∈ ls, trim l = l ∧ '\n' ∉ l) : lines (unlines ls) = ls := by
  induction ls with
  | nil => rfl
  | cons l ls ih =>
    obtain ⟨htrim, hl⟩ := h l List.mem_cons_self
    rw [unlines_cons, lines_append_newline hl (getLast?_ne_of_trimmed htrim),
      ih fun k hk => h k (List.mem_cons_of_mem l hk)]

/-- A separator is a seam: the pieces of both sides come one after the other. -/
theorem splitAt_append_cons {c : Char} (a b : Text) :
    splitAt c (a ++ c :: b) = splitAt c a ++ splitAt c b := by
  induction a with
  | nil => simp [splitAt]
  | cons x r ih =>
    rw [List.cons_append, splitAt, splitAt, ih]
    split
    · rfl
    · cases hr : splitAt c r with
      | nil => exact absurd hr (splitAt_ne_nil c r)
      | cons p ps => rfl

/-- A text without a separator is one piece. -/
theorem splitAt_eq_singleton {c : Char} {s : Text} (h : c ∉ s) : splitAt c s = [s] := by
  induction s with
  | nil => rfl
  | cons x r ih =>
    obtain ⟨hx, hr⟩ := not_or.1 (mt List.mem_cons.2 h)
    rw [splitAt, if_neg (Ne.symm hx), ih hr]

/-- Behind the last newline nothing is left. -/
theorem splitAt_unlines {ls : List Text} (h : ∀ l ∈ ls, '\n' ∉ l) :
    splitAt '\n' (unlines ls) = ls ++ [[]] := by
  induction ls with
  | nil => rfl
  | cons l ls ih =>
    rw [unlines_cons, splitAt_append_cons, splitAt_eq_singleton (h l List.mem_cons_self),
      ih fun k hk => h k (List.mem_cons_of_mem l hk)]
    rfl

/-! ## Content -/

/-- What a line says is not empty, has no blanks at its ends and no newline. -/
theorem isContent_of_mem_contentLines {l s : Text} (h : l ∈ contentLines s) : IsContent l := by
  obtain ⟨hmem, hne⟩ := List.mem_filter.1 h
  obtain ⟨k, hk, rfl⟩ := List.mem_map.1 hmem
  exact ⟨by simpa using hne, trim_trim k, fun hn => not_mem_of_mem_lines hk (mem_of_mem_trim hn)⟩

/-- The lines of content among trimmed lines are those that are not empty. -/
theorem contentLines_eq {s : Text} {ls : List Text} (hs : lines s = ls) (h : ∀ l ∈ ls, trim l = l) :
    contentLines s = ls.filter (· != []) := by
  rw [contentLines, hs, List.map_congr_left h, List.map_id']

/-- Lines of content that are ended one by one are found again. -/
theorem contentLines_unlines {ls : List Text} (h : ∀ l ∈ ls, IsContent l) :
    contentLines (unlines ls) = ls := by
  have hlines : lines (unlines ls) = ls := lines_unlines fun l hl => ⟨(h l hl).trimmed, (h l hl).newline⟩
  rw [contentLines_eq hlines fun l hl => (h l hl).trimmed, List.filter_eq_self]
  intro l hl
  simpa using (h l hl).ne_nil

/-- A blank line in front says nothing. -/
theorem contentLines_newline_cons (s : Text) : contentLines ('\n' :: s) = contentLines s := by
  rw [contentLines, lines, List.map_cons, List.filter_cons_of_neg (by decide)]
  rfl

/-! ## Words across lines -/

/-- If a text begins with a word that does not hold `c`, every occurrence of `c` is behind the word. -/
theorem exists_eq_append_of_append_cons {c : Char} {w y a b : Text} (hw : c ∉ w) (h : w ++ y = a ++ c :: b) :
    ∃ z, a = w ++ z ∧ y = z ++ c :: b := by
  rcases List.append_eq_append_iff.1 h with hin | ⟨z, rfl, hz⟩
  · exact hin
  · rcases List.cons_eq_append_iff.1 hz with ⟨rfl, rfl⟩ | ⟨z, rfl, -⟩
    · exact ⟨[], by simp, rfl⟩
    · exact absurd (List.mem_append_right a List.mem_cons_self) hw

/-- A word that does not hold `c` stands in front of an occurrence of `c`, or behind it. -/
theorem word_front_or_behind {c : Char} {w x y a b : Text} (hw : c ∉ w) (h : x ++ w ++ y = a ++ c :: b) :
    (∃ z, a = x ++ w ++ z ∧ y = z ++ c :: b) ∨ ∃ z, x = a ++ c :: z ∧ b = z ++ w ++ y := by
  rw [List.append_assoc] at h
  rcases List.append_eq_append_iff.1 h with ⟨u, rfl, hu⟩ | ⟨u, rfl, hu⟩
  · obtain ⟨z, rfl, hy⟩ := exists_eq_append_of_append_cons hw hu
    exact Or.inl ⟨z, (List.append_assoc ..).symm, hy⟩
  · rcases List.cons_eq_append_iff.1 hu with ⟨rfl, hb⟩ | ⟨z, rfl, rfl⟩
    · -- nothing is left in front of `c`
      obtain ⟨z, hz, hy⟩ := exists_eq_append_of_append_cons (a := []) hw hb
      obtain ⟨rfl, rfl⟩ := List.append_eq_nil_iff.1 hz.symm
      exact Or.inl ⟨[], by simp, hy⟩
    · exact Or.inr ⟨z, rfl, (List.append_assoc ..).symm⟩

/-- A word that does not hold `c` does not reach over an occurrence of it. -/
theorem infix_or_infix_of_append_cons {c : Char} {w a b : Text} (hw : c ∉ w) (h : w <:+: a ++ c :: b) :
    w <:+: a ∨ w <:+: b := by
  obtain ⟨x, y, h⟩ := h
  rcases word_front_or_behind hw h with ⟨z, ha, -⟩ | ⟨z, -, hb⟩
  · exact Or.inl ⟨x, z, ha.symm⟩
  · exact Or.inr ⟨z, y, hb.symm⟩

/-- A word without newlines that occurs in a text occurs in one of its lines. -/
theorem exists_infix_of_infix_unlines {w : Text} {ls : List Text} (hne : w ≠ []) (hw : '\n' ∉ w)
    (h : w <:+: unlines ls) : ∃ l ∈ ls, w <:+: l := by
  induction ls with
  | nil => exact absurd (List.infix_nil.1 h) hne
  | cons l ls ih =>
    rw [unlines_cons] at h
    rcases infix_or_infix_of_append_cons hw h with h | h
    · exact ⟨l, List.mem_cons_self, h⟩
    · obtain ⟨k, hk, hin⟩ := ih h
      exact ⟨k, List.mem_cons_of_mem l hk, hin⟩

/-! ## Lines of a part -/

/-- The first line stands at the front of the text, the others stand in it. -/
theorem prefix_and_infix_of_lines (s : Text) :
    (∀ l, (lines s).head? = some l → l <+: s) ∧ ∀ l ∈ lines s, l <:+: s := by
  -- both together: the first line may have to be made longer at its front
  induction s using lines.induct with
  | case1 => exact ⟨fun l hl => (nomatch hl), fun l hl => (nomatch hl)⟩
  | case2 r ih =>
    refine ⟨fun l hl => Option.some.inj hl ▸ List.nil_prefix, fun l hl => ?_⟩
    rcases List.mem_cons.1 hl with rfl | hl
    · exact List.nil_infix
    · exact (ih.2 l hl).trans (List.infix_cons List.infix_rfl)
  | case3 r ih =>
    refine ⟨fun l hl => Option.some.inj hl ▸ List.nil_prefix, fun l hl => ?_⟩
    rcases List.mem_cons.1 hl with rfl | hl
    · exact List.nil_infix
    · exact (ih.2 l hl).trans ⟨['\r', '\n'], [], by simp⟩
  | case4 c r hc hr hl ih =>
    have hsingle : [c] <+: c :: r := ⟨r, rfl⟩
    rw [lines.eq_4 c r hc hr, hl]
    exact ⟨fun l h => Option.some.inj h ▸ hsingle, fun l h => List.mem_singleton.1 h ▸ hsingle.isInfix⟩
  | case5 c r hc hr k ks hl ih =>
    rw [hl] at ih
    have hfirst : c :: k <+: c :: r := List.cons_prefix_cons.2 ⟨rfl, ih.1 k rfl⟩
    rw [lines.eq_4 c r hc hr, hl]
    refine ⟨fun l h => Option.some.inj h ▸ hfirst, fun l h => ?_⟩
    rcases List.mem_cons.1 h with rfl | h
    · exact hfirst.isInfix
    · exact List.infix_cons (ih.2 l (List.mem_cons_of_mem k h))

/-- A line of a part of a text is a part of a line of the whole text, once both are trimmed. -/
theorem exists_infix_trim_of_mem_lines {l part s : Text} (hpart : part <:+: s) (hl : l ∈ lines part) :
    ∃ k ∈ splitAt '\n' s, trim l <:+: trim k := by
  by_cases hne : trim l = []
  · obtain ⟨k, ks, hks⟩ := List.exists_cons_of_ne_nil (splitAt_ne_nil '\n' s)
    rw [hne, hks]
    exact ⟨k, List.mem_cons_self, List.nil_infix⟩
  have hnewline : '\n' ∉ trim l := fun hmem => not_mem_of_mem_lines hl (mem_of_mem_trim hmem)
  -- a piece without newlines lies within one piece of the whole text
  have hs : s ++ ['\n'] = unlines (splitAt '\n' s) := by
    rw [← joinWith_newline (splitAt_ne_nil '\n' s), joinWith_splitAt]
  have hin : trim l <:+: s :=
    (trim_infix_self l).trans (((prefix_and_infix_of_lines part).2 l hl).trans hpart)
  have hunlines : trim l <:+: unlines (splitAt '\n' s) := by
    rw [← hs]
    exact hin.trans (List.prefix_append s _).isInfix
  obtain ⟨k, hk, hlk⟩ := exists_infix_of_infix_unlines hne hnewline hunlines
  exact ⟨k, hk, infix_trim_of_infix (trim_trim l) hlk⟩

end DocStub.Text

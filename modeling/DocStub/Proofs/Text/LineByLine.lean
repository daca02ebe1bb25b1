/-
  Texts that are the same but for their layout.

  1. **Line by line** — `LineByLine R Q` relates two texts with the same number of lines: those that a newline
     ends by `R`, and the last ones by `Q`.  `SameLines` are texts with the same lines, trimmed.  `PaddedLines` are
     texts of which the second has more blanks in front of its newlines, and differs in nothing else.
  2. **Cutting at a word** — a cut in the middle of a line makes a last line of what stands in front of it.  If
     lines can be cut at a word (`Cuts`), so can texts of such lines, and what stands on the two sides is
     related again (`LineByLine.cuts`).
  3. **Pieces** — two texts have the same lines if their pieces are the same when they are trimmed
     (`sameLines_iff`).  Then they say the same (`SameLines.contentLines_eq`).
  4. **Lines** — the other rule of cutting may see one empty line more in one of the texts, at the end
     (`SameLines.map_trim_lines`).  It does not, if only blanks in front of newlines were added
     (`PaddedLines.map_trim_lines`).
-/
import DocStub.Proofs.Text.Content
import Mathlib.Data.List.Forall2

namespace DocStub.Text

/-! ## Line by line -/

/-- Lines that a newline ends are related by `R` one by one, and the last lines by `Q`. -/
inductive LineByLine (R Q : Text → Text → Prop) : Text → Text → Prop where
  | last {l m : Text} (hl : '\n' ∉ l) (hm : '\n' ∉ m) (h : Q l m) : LineByLine R Q l m
  | line {l m s t : Text} (hl : '\n' ∉ l) (hm : '\n' ∉ m) (h : R l m) (hrest : LineByLine R Q s t) :
    LineByLine R Q (l ++ '\n' :: s) (m ++ '\n' :: t)

/-- The lines differ at most in blanks at their ends. -/
def SameTrim (l m : Text) : Prop := trim l = trim m

/-- The texts have the same lines, trimmed. -/
abbrev SameLines : Text → Text → Prop := LineByLine SameTrim SameTrim

/-- The second text has blanks more than the first, directly in front of newlines. -/
abbrev PaddedLines : Text → Text → Prop := LineByLine IsPadded Eq

/-- Weaker relations hold between the same lines. -/
theorem LineByLine.mono {R Q R' Q' : Text → Text → Prop} (hR : ∀ l m, R l m → R' l m)
    (hQ : ∀ l m, Q l m → Q' l m) {s t : Text} (h : LineByLine R Q s t) : LineByLine R' Q' s t := by
  induction h with
  | last hl hm h => exact .last hl hm (hQ _ _ h)
  | line hl hm h _ ih => exact .line hl hm (hR _ _ h) ih

theorem SameLines.symm {s t : Text} (h : SameLines s t) : SameLines t s := by
  induction h with
  | last hl hm h => exact .last hm hl h.symm
  | line hl hm h _ ih => exact .line hm hl h.symm ih

/-- Padding is blank, so padded lines are the same once they are trimmed. -/
theorem PaddedLines.sameLines {s t : Text} (h : PaddedLines s t) : SameLines s t :=
  h.mono (fun _ _ hp => hp.trim_eq.symm) fun _ _ he => congrArg trim he

/-- The same character in front of both texts belongs to both first lines. -/
theorem PaddedLines.cons {c : Char} (hc : c ≠ '\n') {s t : Text} (h : PaddedLines s t) :
    PaddedLines (c :: s) (c :: t) := by
  have hline {l : Text} (hl : '\n' ∉ l) : '\n' ∉ c :: l := List.not_mem_cons_of_ne_of_not_mem hc.symm hl
  cases h with
  | last hl hm h => exact .last (hline hl) (hline hm) (congrArg (c :: ·) h)
  | line hl hm h hrest => exact .line (hline hl) (hline hm) (h.cons c) hrest

/-- The text with a carriage return in front of every newline. -/
def withReturns (s : Text) : Text := s.flatMap fun c => if c = '\n' then ['\r', '\n'] else [c]

/-- A carriage return in front of a newline is padding. -/
theorem paddedLines_withReturns (s : Text) : PaddedLines s (withReturns s) := by
  induction s with
  | nil => exact .last List.not_mem_nil List.not_mem_nil rfl
  | cons c r ih =>
    rw [withReturns, List.flatMap_cons]
    split
    · next hc =>
      rw [hc]
      exact .line (l := []) (m := ['\r']) List.not_mem_nil (by decide) ⟨['\r'], List.forall_mem_singleton.2 rfl, rfl⟩ ih
    · next hc => exact ih.cons hc

/-! ## Cutting at a word -/

/-- Texts that are related by `R` can be cut at the same words: what stands in front is related by `Q`, and what
    stands behind by `R` again. -/
def Cuts (R Q : Text → Text → Prop) : Prop :=
  ∀ k x y m, IsToken k → R (x ++ k ++ y) m → ∃ x' y', m = x' ++ k ++ y' ∧ Q x x' ∧ R y y'

/-- Equal texts are cut at equal places. -/
theorem cuts_eq : Cuts Eq Eq := by
  rintro k x y _ - rfl
  exact ⟨x, y, rfl, rfl, rfl⟩

/-- A cut of a line is a cut of the padded line; the padding stays behind it. -/
theorem cuts_isPadded : Cuts IsPadded Eq := by
  rintro k x y _ - ⟨v, hv, rfl⟩
  exact ⟨x, y ++ v, List.append_assoc .., rfl, v, hv, rfl⟩

/-- Trimming does not reach over the word, so it stays between what is left on its two sides. -/
theorem cuts_sameTrim : Cuts SameTrim SameTrim := by
  intro k x y m hk h
  obtain ⟨u, v, hu, hv, hm⟩ := exists_eq_append_trim_append m
  have htrim : trim m = trimStart x ++ k ++ trimEnd y := by
    rw [← trim_append_append hk.isContent.trimmed hk.ne_nil]
    exact h.symm
  refine ⟨u ++ trimStart x, trimEnd y ++ v, ?_, ?_, ?_⟩
  · rw [hm, htrim]
    simp only [List.append_assoc]
  · rw [SameTrim, trim_blanks_append hu, trim_trimStart]
  · rw [SameTrim, trim_append_blanks hv, trim_trimEnd]

/-- If single lines can be cut together, so can the texts that consist of them. -/
theorem LineByLine.cuts {R Q : Text → Text → Prop} (hR : Cuts R Q) (hQ : Cuts Q Q) :
    Cuts (LineByLine R Q) (LineByLine R Q) := by
  intro k x y b hk h
  generalize ha : x ++ k ++ y = a at h
  induction h generalizing x with
  | last hl hm h =>
    subst ha
    obtain ⟨x', y', rfl, hx, hy⟩ := hQ k x y _ hk h
    simp only [List.mem_append, not_or] at hl hm
    exact ⟨x', y', rfl, .last hl.1.1 hm.1.1 hx, .last hl.2 hm.2 hy⟩
  | @line l m s t hl hm h hrest ih =>
    rcases word_front_or_behind hk.isContent.newline ha with ⟨z, rfl, rfl⟩ | ⟨z, rfl, rfl⟩
    · -- the word stands in the first line
      obtain ⟨x', z', rfl, hx, hz⟩ := hR k x z m hk h
      simp only [List.mem_append, not_or] at hl hm
      refine ⟨x', z' ++ '\n' :: t, List.append_assoc .., ?_, ?_⟩
      · exact .last hl.1.1 hm.1.1 hx
      · exact .line hl.2 hm.2 hz hrest
    · obtain ⟨z', y', rfl, hz, hy⟩ := ih z rfl
      refine ⟨m ++ '\n' :: z', y', ?_, .line hl hm h hz, hy⟩
      simp only [List.append_assoc, List.cons_append]

/-- Texts that are related by `R` have the same words in them, and can be cut at each of them. -/
structure KeepsWords (R : Text → Text → Prop) : Prop where
  cuts : Cuts R R
  isInfix_of_isInfix : ∀ {k s t}, IsToken k → R s t → k <:+: t → k <:+: s

/-- A keyword that is found in a text is found in every text with the same lines. -/
theorem keepsWords_sameLines : KeepsWords SameLines := by
  have hcuts : Cuts SameLines SameLines := LineByLine.cuts cuts_sameTrim cuts_sameTrim
  refine ⟨hcuts, ?_⟩
  rintro k s _ hk h ⟨x, y, rfl⟩
  obtain ⟨x', y', rfl, -, -⟩ := hcuts k x y s hk h.symm
  exact ⟨x', y', rfl⟩

/-- Padding is blank, so it brings in no word and breaks none. -/
theorem keepsWords_paddedLines : KeepsWords PaddedLines where
  cuts := LineByLine.cuts cuts_isPadded cuts_eq
  isInfix_of_isInfix hk h := keepsWords_sameLines.isInfix_of_isInfix hk h.sameLines

/-! ## Pieces -/

/-- Lines that are the same one by one make texts that are the same line by line. -/
theorem sameLines_joinWith {ps qs : List Text} (hps : ∀ p ∈ ps, '\n' ∉ p) (hqs : ∀ q ∈ qs, '\n' ∉ q)
    (h : List.Forall₂ SameTrim ps qs) : SameLines (joinWith ['\n'] ps) (joinWith ['\n'] qs) := by
  induction h with
  | nil => exact .last List.not_mem_nil List.not_mem_nil rfl
  | @cons p q ps qs hpq hrest ih =>
    obtain ⟨hp, hps⟩ := List.forall_mem_cons.1 hps
    obtain ⟨hq, hqs⟩ := List.forall_mem_cons.1 hqs
    cases hrest with
    | nil => exact .last hp hq hpq
    | cons =>
      rw [joinWith_cons _ p (List.cons_ne_nil _ _), joinWith_cons _ q (List.cons_ne_nil _ _), List.append_assoc,
        List.append_assoc]
      exact .line hp hq hpq (ih hps hqs)

/-- Two texts have the same lines if the pieces between their newlines are the same once they are trimmed. -/
theorem sameLines_iff {s t : Text} :
    SameLines s t ↔ (splitAt '\n' s).map trim = (splitAt '\n' t).map trim := by
  constructor
  · intro h
    -- a newline is a seam between pieces
    induction h with
    | last hl hm h =>
      rw [splitAt_eq_singleton hl, splitAt_eq_singleton hm]
      exact congrArg ([·]) h
    | line hl hm h _ ih =>
      rw [splitAt_append_cons, splitAt_append_cons, splitAt_eq_singleton hl, splitAt_eq_singleton hm,
        List.map_append, List.map_append, ih]
      exact congrArg (· :: _) h
  · intro h
    -- the texts are their pieces, joined again
    have hpieces : List.Forall₂ SameTrim (splitAt '\n' s) (splitAt '\n' t) := by
      rwa [← List.forall₂_eq_eq_eq, List.forall₂_map_left_iff, List.forall₂_map_right_iff] at h
    rw [← joinWith_splitAt '\n' s, ← joinWith_splitAt '\n' t]
    exact sameLines_joinWith (fun _ => not_mem_of_mem_splitAt) (fun _ => not_mem_of_mem_splitAt) hpieces

/-- Texts with the same lines say the same. -/
theorem SameLines.contentLines_eq {s t : Text} (h : SameLines s t) : contentLines s = contentLines t := by
  rw [contentLines_eq_contentOf, contentLines_eq_contentOf, contentOf, contentOf, sameLines_iff.1 h]

/-! ## Lines -/

/-- Texts with the same lines have the same lines in the sense of `lines`, up to an empty one at the end. -/
theorem SameLines.map_trim_lines {s t : Text} (h : SameLines s t) :
    (lines s).map trim ++ emptyEnd s = (lines t).map trim ++ emptyEnd t := by
  rw [← map_trim_splitAt, ← map_trim_splitAt, sameLines_iff.1 h]

theorem emptyEnd_append_newline (l s : Text) : emptyEnd (l ++ '\n' :: s) = emptyEnd s := by
  rw [← emptyEnd_newline_cons s, emptyEnd, emptyEnd, List.getLast?_append_of_ne_nil l (List.cons_ne_nil _ _)]

/-- Padding stands in front of newlines only, so it does not change how a text ends. -/
theorem PaddedLines.emptyEnd_eq {s t : Text} (h : PaddedLines s t) : emptyEnd s = emptyEnd t := by
  induction h with
  | last _ _ h => rw [h]
  | line _ _ _ _ ih => rw [emptyEnd_append_newline, emptyEnd_append_newline, ih]

/-- Padded texts have as many lines, and each is the same once it is trimmed. -/
theorem PaddedLines.map_trim_lines {s t : Text} (h : PaddedLines s t) :
    (lines s).map trim = (lines t).map trim := by
  have heq := h.sameLines.map_trim_lines
  rw [h.emptyEnd_eq] at heq
  exact List.append_cancel_right heq

end DocStub.Text

/-
  Collapsed texts, and the words that they are made of.

  1. **Words** — a text without a blank is one word, or none, and a blank cuts a text into two, each with words of its
     own.  `blankInduction` proves what is kept by such cuts: words are single words
     (`isToken_of_mem_words`), and they are what stands between the blanks, with nothing empty kept
     (`words_eq_filter_splitOnP`).  Blanks at the ends of a text make no word (`words_trim`), and words that are
     written with single spaces in between are read back (`words_joinWith`).
  2. **Collapsing** — the scan writes a space where a run of blanks begins.  So over a text that ends in a solid
     character it writes the words, a single space between any two, and one in front of them if the text begins with a
     blank (`squeeze_eq_joinWith`).  A trimmed text does not.
  3. **What follows** — a collapsed text is the normal form of all texts of the same words
     (`collapse_eq_joinWith_words`).
-/
import DocStub.Proofs.Text.Newline
import DocStub.Proofs.Text.Words

namespace DocStub.Text

/-! ## Words -/

/-- What holds of texts without a blank, and of two texts with a blank in between if it holds of each one, holds of
    every text. -/
@[elab_as_elim]
theorem blankInduction {P : Text → Prop} (solid : ∀ s : Text, (∀ c ∈ s, isBlank c = false) → P s)
    (cut : ∀ x c y, isBlank c = true → P x → P y → P (x ++ c :: y)) (s : Text) : P s := by
  induction hn : s.length using Nat.strong_induction_on generalizing s with
  | _ n ih =>
    subst hn
    by_cases h : ∃ c ∈ s, isBlank c = true
    · obtain ⟨c, hmem, hc⟩ := h
      obtain ⟨x, y, rfl⟩ := List.append_of_mem hmem
      refine cut x c y hc (ih x.length ?_ x rfl) (ih y.length ?_ y rfl)
      · rw [List.length_append, List.length_cons]
        omega
      · rw [List.length_append, List.length_cons]
        omega
    · exact solid s (by simpa using h)

theorem words_of_isToken {t : Text} (h : IsToken t) : words t = [t] := by
  obtain ⟨c, r, rfl⟩ := List.exists_cons_of_ne_nil h.ne_nil
  induction r generalizing c with
  | nil => exact words_singleton (by simp [h.solid c List.mem_cons_self])
  | cons d r ih =>
    have hrest : IsToken (d :: r) := ⟨List.cons_ne_nil d r, fun x hx => h.solid x (List.mem_cons_of_mem c hx)⟩
    have hc : isBlank c = false := h.solid c List.mem_cons_self
    have hd : isBlank d = false := hrest.solid d List.mem_cons_self
    rw [words_cons_cons, hc, ih d hrest]
    simp [hd]

/-- A text without blanks is one word, or none if it is empty. -/
theorem words_of_solid {s : Text} (h : ∀ c ∈ s, isBlank c = false) : words s = [s].filter (· ≠ []) := by
  by_cases hne : s = []
  · rw [hne]
    rfl
  · rw [words_of_isToken ⟨hne, h⟩, List.filter_cons_of_pos (by simpa using hne)]
    rfl

/-- The words are what stands between the blanks, with nothing empty kept. -/
theorem words_eq_filter_splitOnP (s : Text) : words s = (s.splitOnP isBlank).filter (· ≠ []) := by
  induction s using blankInduction with
  | solid s h => rw [List.splitOnP_eq_singleton h, words_of_solid h]
  | cut x c y hc hx hy => rw [words_append_blank hc, List.splitOnP_append_cons x y hc, List.filter_append, hx, hy]

/-- A word is not empty and has no blanks. -/
theorem isToken_of_mem_words {w s : Text} (h : w ∈ words s) : IsToken w := by
  induction s using blankInduction with
  | solid s hs =>
    rw [words_of_solid hs] at h
    obtain ⟨hw, hne⟩ := List.mem_filter.1 h
    rw [List.mem_singleton.1 hw] at hne ⊢
    exact ⟨by simpa using hne, hs⟩
  | cut x c y hc hx hy =>
    rw [words_append_blank hc] at h
    exact (List.mem_append.1 h).elim hx hy

/-- Blanks in front of a text add no words. -/
theorem words_blanks_append {v : Text} (hv : ∀ c ∈ v, isBlank c = true) (s : Text) : words (v ++ s) = words s := by
  induction v with
  | nil => rfl
  | cons c v ih =>
    obtain ⟨hc, hv⟩ := List.forall_mem_cons.1 hv
    rw [List.cons_append, words_cons_of_isBlank hc, ih hv]

/-- Blanks behind a text add no words. -/
theorem words_append_blanks {v : Text} (hv : ∀ c ∈ v, isBlank c = true) (s : Text) : words (s ++ v) = words s := by
  cases v with
  | nil => rw [List.append_nil]
  | cons c v =>
    obtain ⟨hc, hv⟩ := List.forall_mem_cons.1 hv
    have hnone : words v = [] := by
      have hwords := words_blanks_append hv []
      rwa [List.append_nil] at hwords
    rw [words_append_blank hc, hnone, List.append_nil]

/-- Trimming keeps all words. -/
theorem words_trim (s : Text) : words (trim s) = words s := by
  obtain ⟨u, v, hu, hv, hs⟩ := exists_eq_append_trim_append s
  calc words (trim s) = words (u ++ trim s ++ v) := by rw [words_append_blanks hv, words_blanks_append hu]
    _ = words s := by rw [← hs]

/-- Words that are joined by single spaces are found again. -/
theorem words_joinWith {ws : List Text} (h : ∀ w ∈ ws, IsToken w) : words (joinWith [' '] ws) = ws := by
  induction ws with
  | nil => rfl
  | cons w ws ih =>
    obtain ⟨hw, hws⟩ := List.forall_mem_cons.1 h
    cases ws with
    | nil => exact words_of_isToken hw
    | cons k ks =>
      rw [joinWith_cons _ w (List.cons_ne_nil k ks), List.append_assoc, List.singleton_append,
        words_append_blank (by decide), words_of_isToken hw, ih hws]
      rfl

/-! ## Collapsing -/

theorem joinWith_cons_cons (separator : Text) (c : Char) (w : Text) (ws : List Text) :
    joinWith separator ((c :: w) :: ws) = c :: joinWith separator (w :: ws) := by
  cases ws <;> simp [joinWith]

theorem squeeze_solid_cons {c : Char} (hc : isBlank c = false) (b : Bool) (s : Text) :
    squeeze b (c :: s) = c :: squeeze false s := by
  rw [squeeze, if_neg (by simp [hc])]

theorem squeeze_blank_cons {c : Char} (hc : isBlank c = true) (b : Bool) (s : Text) :
    squeeze b (c :: s) = (if b then [] else [' ']) ++ squeeze true s := by
  rw [squeeze, if_pos hc]
  cases b <;> rfl

/-- The space that is written for the blanks at the front of a text. -/
def frontSpace (s : Text) : Text := if s.head?.any isBlank then [' '] else []

/-- The two states of the scan, over a text that does not end in a blank. -/
theorem squeeze_eq_joinWith {s : Text} (h : ∀ c, s.getLast? = some c → isBlank c = false) :
    squeeze true s = joinWith [' '] (words s) ∧ squeeze false s = frontSpace s ++ joinWith [' '] (words s) := by
  induction s with
  | nil => exact ⟨rfl, rfl⟩
  | cons c r ih =>
    cases r with
    | nil =>
      have hc : isBlank c = false := h c rfl
      have hfront : frontSpace [c] = [] := by simp [frontSpace, hc]
      have hwords : words [c] = [[c]] := words_singleton (by simp [hc])
      rw [squeeze_solid_cons hc, squeeze_solid_cons hc, hfront, hwords]
      exact ⟨rfl, rfl⟩
    | cons d r =>
      have hlast : ∀ x, (d :: r).getLast? = some x → isBlank x = false := h
      obtain ⟨hrun, hoff⟩ := ih hlast
      cases hc : isBlank c with
      | true =>
        have hfront : frontSpace (c :: d :: r) = [' '] := by simp [frontSpace, hc]
        rw [squeeze_blank_cons hc, squeeze_blank_cons hc, words_cons_of_isBlank hc, hrun, hfront]
        exact ⟨rfl, rfl⟩
      | false =>
        have hfront : frontSpace (c :: d :: r) = [] := by simp [frontSpace, hc]
        have hwords : words (d :: r) ≠ [] := by
          obtain ⟨x, hx⟩ := Option.ne_none_iff_exists'.1 (mt List.getLast?_eq_none_iff.1 (List.cons_ne_nil d r))
          exact words_ne_nil ⟨x, List.mem_of_getLast? hx, hlast x hx⟩
        obtain ⟨w, ws, hw⟩ := List.exists_cons_of_ne_nil hwords
        rw [squeeze_solid_cons hc, squeeze_solid_cons hc, hfront, hoff, words_cons_cons, if_neg (by simp [hc]), hw]
        -- the character is a word by itself, or the first one of the word behind it
        cases hd : isBlank d with
        | true =>
          have hspace : frontSpace (d :: r) = [' '] := by simp [frontSpace, hd]
          rw [hspace]
          exact ⟨rfl, rfl⟩
        | false =>
          have hspace : frontSpace (d :: r) = [] := by simp [frontSpace, hd]
          rw [hspace]
          exact ⟨(joinWith_cons_cons ..).symm, (joinWith_cons_cons ..).symm⟩

/-- A trimmed text does not begin with a blank, so its words come first. -/
theorem collapse_eq (s : Text) : collapse s = joinWith [' '] (words s) := by
  have hfront : frontSpace (trim s) = [] := by
    cases hs : (trim s).head? with
    | none => simp [frontSpace, hs]
    | some c => simp [frontSpace, hs, isBlank_of_head?_trim hs]
  have hsqueeze := (squeeze_eq_joinWith (s := trim s) fun _ => isBlank_of_getLast?_trim).2
  rwa [hfront, words_trim, List.nil_append] at hsqueeze

/-- Collapsing keeps all words, so it changes nothing but the blanks. -/
theorem words_collapse (s : Text) : words (collapse s) = words s := by
  rw [collapse_eq, words_joinWith fun _ => isToken_of_mem_words]

/-! ## What follows -/

/-- The text has no blanks but spaces, no two next to each other, and none at its ends. -/
structure IsCollapsed (t : Text) : Prop where
  space : ∀ c ∈ t, isBlank c = true → c = ' '
  single : ¬ [' ', ' '] <:+: t
  start : t.head? ≠ some ' '
  stop : t.getLast? ≠ some ' '

/-- Behind a space that is written nothing blank comes. -/
theorem isBlank_of_head?_squeeze {c : Char} {s : Text} (h : (squeeze true s).head? = some c) : isBlank c = false := by
  induction s with
  | nil => cases h
  | cons d r ih =>
    cases hd : isBlank d with
    | true =>
      rw [squeeze_blank_cons hd] at h
      exact ih h
    | false =>
      rw [squeeze_solid_cons hd] at h
      obtain rfl : d = c := Option.some.inj h
      exact hd

/-- A squeezed text never has two spaces in a row, whether or not it begins inside a run. -/
theorem not_spaces_infix_squeeze (b : Bool) (s : Text) : ¬ [' ', ' '] <:+: squeeze b s := by
  induction s generalizing b with
  | nil => exact fun h => absurd (List.infix_nil.1 h) (List.cons_ne_nil _ _)
  | cons c r ih =>
    cases hc : isBlank c with
    | true =>
      rw [squeeze_blank_cons hc]
      cases b with
      | true => exact ih true
      | false =>
        intro h
        rcases List.infix_cons_iff.1 h with hprefix | hin
        · -- the space was just written, and inside the run no other one follows
          obtain ⟨t, ht⟩ : [' '] <+: squeeze true r := (List.cons_prefix_cons.1 hprefix).2
          have hspace : isBlank ' ' = false := isBlank_of_head?_squeeze (s := r) (by rw [← ht]; rfl)
          exact absurd hspace (by decide)
        · exact ih true hin
    | false =>
      rw [squeeze_solid_cons hc]
      intro h
      rcases List.infix_cons_iff.1 h with hprefix | hin
      · obtain ⟨rfl, -⟩ := List.cons_prefix_cons.1 hprefix
        exact absurd hc (by decide)
      · exact ih false hin

/-- Single spaces are the only blanks of a collapsed text, and they stand between words. -/
theorem isCollapsed_collapse (s : Text) : IsCollapsed (collapse s) where
  space c hmem hc := by
    by_contra hspace
    exact not_mem_collapse hc hspace s hmem
  single := not_spaces_infix_squeeze false (trim s)
  start h := by
    cases hs : trim s with
    | nil =>
      rw [collapse, hs] at h
      cases h
    | cons c r =>
      have hc : isBlank c = false := isBlank_of_head?_trim (s := s) (by rw [hs]; rfl)
      rw [collapse, hs, squeeze_solid_cons hc] at h
      obtain rfl : c = ' ' := Option.some.inj h
      exact absurd hc (by decide)
  stop h := by
    have hspace : isBlank ' ' = false := trimEnd_eq_self_iff.1 (trimEnd_collapse s) ' ' h
    exact absurd hspace (by decide)

/-- **Collapsing is joining words.**  The collapsed text is the words of the text, which are what stands between its
    blanks, with single spaces in between.  It has no other blanks, collapsing it again changes nothing, and two texts
    collapse to the same one exactly if they have the same words. -/
theorem collapse_eq_joinWith_words :
    (∀ s, collapse s = joinWith [' '] (words s) ∧ words s = (s.splitOnP isBlank).filter (· ≠ []))
    ∧ (∀ s, IsCollapsed (collapse s))
    ∧ (∀ s, collapse (collapse s) = collapse s)
    ∧ ∀ s t, collapse s = collapse t ↔ words s = words t := by
  refine ⟨?_, isCollapsed_collapse, ?_, ?_⟩
  · intro s
    exact ⟨collapse_eq s, words_eq_filter_splitOnP s⟩
  · intro s
    -- the words are still there, and determine the collapsed text
    rw [collapse_eq (collapse s), words_collapse, ← collapse_eq]
  · intro s t
    constructor
    · intro h
      rw [← words_collapse s, h, words_collapse]
    · intro h
      rw [collapse_eq, collapse_eq, h]

end DocStub.Text

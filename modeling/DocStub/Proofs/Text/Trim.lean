/-
  What trimming leaves.

  1. **The ends** — `trim s` is a part of `s` whose first and last characters are not blank
     (`trim_infix_self`, `isBlank_of_head?_trim`, `isBlank_of_getLast?_trim`), and a text like that is trimmed
     already (`trim_eq_self_iff`).  Trimming twice is trimming once (`trim_trim`).
  2. **Blanks** — trimming takes blanks from both ends and nothing else (`exists_eq_append_trim_append`), so blanks
     that are added there change nothing (`trim_blanks_append`, `trim_append_blanks`).
  3. **Trimming the end of a longer text** — blanks are taken from the last part only, if there is
     something else in it (`trimEnd_append`).  So a longer text is trimmed at its end if its last part is
     (`trimEnd_append_eq_self_iff`).
  4. **Parts** — trimming does not reach over a trimmed part of a text (`trim_append_append`), so this is a part of
     what trimming leaves, too (`infix_trim_of_infix`).
  5. **Collapsing** — a collapsed text has no blank at its end, for it was trimmed first (`trimEnd_collapse`).
-/
import DocStub.Text.Blank
import Mathlib.Data.List.DropRight

namespace DocStub.Text

/-! ## The ends of a trimmed text -/

theorem trimStart_suffix (s : Text) : trimStart s <:+ s := List.dropWhile_suffix isBlank

theorem trimEnd_prefix_self (s : Text) : trimEnd s <+: s := List.rdropWhile_prefix isBlank s

theorem trim_infix_self (s : Text) : trim s <:+: s :=
  (trimEnd_prefix_self (trimStart s)).isInfix.trans (trimStart_suffix s).isInfix

/-- Trimming adds no characters. -/
theorem mem_of_mem_trim {c : Char} {s : Text} (h : c ∈ trim s) : c ∈ s := (trim_infix_self s).subset h

/-- A trimmed text begins with a solid character. -/
theorem isBlank_of_head?_trimStart {c : Char} {s : Text} (h : (trimStart s).head? = some c) :
    isBlank c = false := by
  have hhead := List.head?_dropWhile_not isBlank s
  rw [show s.dropWhile isBlank = trimStart s from rfl, h] at hhead
  exact hhead

/-- A trimmed text ends with a solid character. -/
theorem isBlank_of_getLast?_trimEnd {c : Char} {s : Text} (h : (trimEnd s).getLast? = some c) :
    isBlank c = false := by
  rw [trimEnd, List.getLast?_reverse] at h
  exact isBlank_of_head?_trimStart (s := s.reverse) h

theorem isBlank_of_getLast?_trim {c : Char} {s : Text} (h : (trim s).getLast? = some c) :
    isBlank c = false :=
  isBlank_of_getLast?_trimEnd h

/-- The end is trimmed after the start, but what it loses is not at the start. -/
theorem isBlank_of_head?_trim {c : Char} {s : Text} (h : (trim s).head? = some c) :
    isBlank c = false := by
  obtain ⟨t, ht⟩ := trimEnd_prefix_self (trimStart s)
  refine isBlank_of_head?_trimStart (s := s) ?_
  rw [← ht, List.head?_append, show trimEnd (trimStart s) = trim s from rfl, h]
  rfl

/-- A text that begins with a solid character has nothing to trim in front. -/
theorem trimStart_eq_self {s : Text} (h : ∀ c, s.head? = some c → isBlank c = false) :
    trimStart s = s := by
  cases s with
  | nil => rfl
  | cons c r => exact List.dropWhile_cons_of_neg (by simp [h c rfl])

/-- A text that ends with a solid character has nothing to trim behind. -/
theorem trimEnd_eq_self {s : Text} (h : ∀ c, s.getLast? = some c → isBlank c = false) :
    trimEnd s = s := by
  have hrev : trimStart s.reverse = s.reverse :=
    trimStart_eq_self fun c hc => h c (by rw [← List.head?_reverse]; exact hc)
  show (trimStart s.reverse).reverse = s
  rw [hrev, List.reverse_reverse]

/-- Nothing is trimmed behind exactly if the text is empty or ends with a solid character. -/
theorem trimEnd_eq_self_iff {s : Text} : trimEnd s = s ↔ ∀ c, s.getLast? = some c → isBlank c = false := by
  constructor
  · intro h c hc
    exact isBlank_of_getLast?_trimEnd (s := s) (by rw [h, hc])
  · exact trimEnd_eq_self

theorem trimEnd_trimEnd (s : Text) : trimEnd (trimEnd s) = trimEnd s :=
  trimEnd_eq_self fun _ => isBlank_of_getLast?_trimEnd

/-- A text is trimmed if it neither begins nor ends with a blank. -/
theorem trim_eq_self_iff {s : Text} :
    trim s = s ↔ (∀ c, s.head? = some c → isBlank c = false)
      ∧ ∀ c, s.getLast? = some c → isBlank c = false := by
  constructor
  · intro h
    exact ⟨fun c hc => isBlank_of_head?_trim (s := s) (by rw [h, hc]),
      fun c hc => isBlank_of_getLast?_trim (s := s) (by rw [h, hc])⟩
  · rintro ⟨hhead, hlast⟩
    rw [trim, trimStart_eq_self hhead, trimEnd_eq_self hlast]

/-- Trimming twice is trimming once. -/
theorem trim_trim (s : Text) : trim (trim s) = trim s :=
  trim_eq_self_iff.2 ⟨fun _ => isBlank_of_head?_trim, fun _ => isBlank_of_getLast?_trim⟩

/-! ## Blanks at the ends -/

section

variable {v : Text} (hv : ∀ c ∈ v, isBlank c = true)
include hv

theorem trimStart_blanks_append (s : Text) : trimStart (v ++ s) = trimStart s :=
  List.dropWhile_append_of_pos hv

/-- Blanks in front of a text do not matter for what is left of it. -/
theorem trim_blanks_append (s : Text) : trim (v ++ s) = trim s := by
  rw [trim, trimStart_blanks_append hv, trim]

theorem trimEnd_append_blanks (s : Text) : trimEnd (s ++ v) = trimEnd s := by
  have hrev : ∀ c ∈ v.reverse, isBlank c = true := fun c hc => hv c (List.mem_reverse.1 hc)
  have hstart : trimStart (v.reverse ++ s.reverse) = trimStart s.reverse := trimStart_blanks_append hrev s.reverse
  show (trimStart (s ++ v).reverse).reverse = _
  rw [List.reverse_append, hstart]
  rfl

/-- Blanks behind a text do not matter for what is left of it. -/
theorem trim_append_blanks (s : Text) : trim (s ++ v) = trim s := by
  rw [trim, trim, trimStart, trimStart, List.dropWhile_append]
  split
  · next hs =>
    -- there are only blanks in front of these
    rw [List.isEmpty_iff.1 hs, List.dropWhile_eq_nil_iff.2 hv]
  · exact trimEnd_append_blanks hv _

end

/-- What is trimmed in front is blank. -/
theorem exists_eq_append_trimStart (s : Text) : ∃ u, (∀ c ∈ u, isBlank c = true) ∧ s = u ++ trimStart s :=
  ⟨s.takeWhile isBlank, fun _ hc => List.mem_takeWhile_imp hc, List.takeWhile_append_dropWhile.symm⟩

/-- What is trimmed behind is blank. -/
theorem exists_eq_trimEnd_append (s : Text) : ∃ v, (∀ c ∈ v, isBlank c = true) ∧ s = trimEnd s ++ v := by
  obtain ⟨u, hu, hs⟩ := exists_eq_append_trimStart s.reverse
  have hrev := congrArg List.reverse hs
  rw [List.reverse_reverse, List.reverse_append] at hrev
  exact ⟨u.reverse, fun c hc => hu c (List.mem_reverse.1 hc), hrev⟩

/-- Trimming takes blanks from both ends, and nothing else. -/
theorem exists_eq_append_trim_append (s : Text) :
    ∃ u v, (∀ c ∈ u, isBlank c = true) ∧ (∀ c ∈ v, isBlank c = true) ∧ s = u ++ trim s ++ v := by
  obtain ⟨u, hu, hs⟩ := exists_eq_append_trimStart s
  obtain ⟨v, hv, ht⟩ := exists_eq_trimEnd_append (trimStart s)
  refine ⟨u, v, hu, hv, ?_⟩
  rw [trim, List.append_assoc, ← ht, ← hs]

/-- Trimming the front first changes nothing. -/
theorem trim_trimStart (s : Text) : trim (trimStart s) = trim s := by
  obtain ⟨u, hu, hs⟩ := exists_eq_append_trimStart s
  calc trim (trimStart s) = trim (u ++ trimStart s) := (trim_blanks_append hu _).symm
    _ = trim s := by rw [← hs]

/-- Trimming the end first changes nothing. -/
theorem trim_trimEnd (s : Text) : trim (trimEnd s) = trim s := by
  obtain ⟨v, hv, hs⟩ := exists_eq_trimEnd_append s
  calc trim (trimEnd s) = trim (trimEnd s ++ v) := (trim_append_blanks hv _).symm
    _ = trim s := by rw [← hs]

/-! ## The end of a longer text -/

/-- If the second part has a solid character, the trimming stays inside of it. -/
theorem trimEnd_append {a b : Text} (h : ∃ c ∈ b, isBlank c = false) :
    trimEnd (a ++ b) = a ++ trimEnd b := by
  obtain ⟨c, hc, hblank⟩ := h
  have hrest : (b.reverse.dropWhile isBlank).isEmpty = false := by
    rw [List.isEmpty_eq_false_iff, ne_eq, List.dropWhile_eq_nil_iff]
    intro hall
    rw [hall c (List.mem_reverse.2 hc)] at hblank
    cases hblank
  rw [trimEnd, trimEnd, List.reverse_append, List.dropWhile_append, hrest]
  simp

theorem trimEnd_append_eq_self_iff {a b : Text} (hb : b ≠ []) : trimEnd (a ++ b) = a ++ b ↔ trimEnd b = b := by
  rw [trimEnd_eq_self_iff, trimEnd_eq_self_iff, List.getLast?_append_of_ne_nil a hb]

/-- Two texts with nothing to trim behind make another one when they are put together. -/
theorem trimEnd_append_eq_self {a b : Text} (ha : trimEnd a = a) (hb : trimEnd b = b) : trimEnd (a ++ b) = a ++ b := by
  by_cases hne : b = []
  · rw [hne, List.append_nil, ha]
  · exact (trimEnd_append_eq_self_iff hne).2 hb

/-! ## Parts -/

/-- In front, a text that begins with a solid character stops the trimming. -/
theorem trimStart_append {t : Text} (h : ∀ c, t.head? = some c → isBlank c = false) (s : Text) :
    trimStart (s ++ t) = trimStart s ++ t := by
  have hself : t.dropWhile isBlank = t := trimStart_eq_self h
  rw [trimStart, trimStart, List.dropWhile_append, hself]
  split
  · next hs => rw [List.isEmpty_iff.1 hs, List.nil_append]
  · rfl

/-- Behind, a text that ends with a solid character stops the trimming. -/
theorem trimEnd_append_of_getLast? {t : Text} (h : ∀ c, t.getLast? = some c → isBlank c = false) (s : Text) :
    trimEnd (t ++ s) = t ++ trimEnd s := by
  have hrev : trimStart (s.reverse ++ t.reverse) = trimStart s.reverse ++ t.reverse :=
    trimStart_append (fun c hc => h c (by rw [← List.head?_reverse]; exact hc)) s.reverse
  show (trimStart (t ++ s).reverse).reverse = _
  rw [List.reverse_append, hrev, List.reverse_append, List.reverse_reverse]
  rfl

/-- Trimming does not reach over a part that is trimmed. -/
theorem trim_append_append {t : Text} (ht : trim t = t) (hne : t ≠ []) (x y : Text) :
    trim (x ++ t ++ y) = trimStart x ++ t ++ trimEnd y := by
  obtain ⟨hhead, hlast⟩ := trim_eq_self_iff.1 ht
  have hstart : ∀ c, (t ++ y).head? = some c → isBlank c = false := by
    rw [List.head?_append_of_ne_nil t hne]
    exact hhead
  have hend : ∀ c, (trimStart x ++ t).getLast? = some c → isBlank c = false := by
    rw [List.getLast?_append_of_ne_nil (trimStart x) hne]
    exact hlast
  rw [trim, List.append_assoc, trimStart_append hstart, ← List.append_assoc, trimEnd_append_of_getLast? hend]

/-- A trimmed part of a text is a part of the trimmed text. -/
theorem infix_trim_of_infix {t s : Text} (ht : trim t = t) (h : t <:+: s) : t <:+: trim s := by
  by_cases hne : t = []
  · rw [hne]
    exact List.nil_infix
  obtain ⟨x, y, rfl⟩ := h
  exact ⟨trimStart x, trimEnd y, (trim_append_append ht hne x y).symm⟩

/-! ## Collapsing -/

/-- A solid character at the end is the end of what squeezing leaves. -/
theorem getLast?_squeeze {c : Char} {s : Text} (hc : isBlank c = false) (h : s.getLast? = some c) (b : Bool) :
    (squeeze b s).getLast? = some c := by
  induction s generalizing b with
  | nil => cases h
  | cons d r ih =>
    cases r with
    | nil =>
      obtain rfl : d = c := Option.some.inj h
      simp [squeeze, hc]
    | cons e r =>
      have hr (b : Bool) : (squeeze b (e :: r)).getLast? = some c := ih h b
      have hcons (x : Char) (b : Bool) : (x :: squeeze b (e :: r)).getLast? = some c := by
        rw [List.getLast?_cons, hr]
        rfl
      rw [squeeze]
      -- what is written for the first character has something solid behind it
      split
      · split
        · exact hr true
        · exact hcons ' ' true
      · exact hcons d false

/-- A collapsed text has no blanks behind. -/
theorem trimEnd_collapse (s : Text) : trimEnd (collapse s) = collapse s := by
  refine trimEnd_eq_self fun c hc => ?_
  cases hlast : (trim s).getLast? with
  | none =>
    rw [collapse, List.getLast?_eq_none_iff.1 hlast] at hc
    cases hc
  | some d =>
    have hd : isBlank d = false := isBlank_of_getLast?_trim hlast
    rw [collapse, getLast?_squeeze hd hlast] at hc
    obtain rfl : d = c := Option.some.inj hc
    exact hd

end DocStub.Text

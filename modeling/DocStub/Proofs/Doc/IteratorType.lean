/-
  The type that a line of prose gives.

  1. **The first occurrence** — `FirstCut w s p q` says that `s` is cut into `p` and `q` at an occurrence of `w` and that
     none begins further in front.  There is at most one such cut, and `cutAt?` finds it if there is one
     (`cutAt?_eq_some_iff`).  A word whose first character does not come back in it cannot overlap itself, so a text
     without the word can be put in front of it (`firstCut_of_silent`).
  2. **Characters** — `NamesIterator` is the rule on characters: the type is what comes behind the word `iterator` and
     four bytes, if these are whole characters; in all other cases there is none.
  3. **Bytes** — the same type is the slice of the line from twelve bytes behind the place of the word, which is taken only
     where the line can be cut.
-/
import DocStub.Proofs.Doc.Records
import DocStub.Proofs.Text.Slices

namespace DocStub

namespace Text

/-! ## The first occurrence -/

/-- The text is cut into the parts in front of its first occurrence of the word, and behind it. -/
structure FirstCut (w s p q : Text) : Prop where
  text : s = p ++ w ++ q
  first : ∀ p' q', s = p' ++ w ++ q' → p.length ≤ p'.length

/-- There is one first occurrence. -/
theorem FirstCut.unique {w s p q p' q' : Text} (h : FirstCut w s p q) (h' : FirstCut w s p' q') : p = p' ∧ q = q' := by
  have hlength : p.length = p'.length := Nat.le_antisymm (h.first p' q' h'.text) (h'.first p q h.text)
  have htexts : p ++ (w ++ q) = p' ++ (w ++ q') := by
    rw [← List.append_assoc, ← List.append_assoc, ← h.text, ← h'.text]
  obtain ⟨hp, hrest⟩ := List.append_inj htexts hlength
  exact ⟨hp, List.append_cancel_left hrest⟩

theorem FirstCut.isInfix {w s p q : Text} (h : FirstCut w s p q) : w <:+: s := ⟨p, q, h.text.symm⟩

/-- `cutAt?` cuts at an occurrence, and looks at all places further in front before. -/
theorem firstCut_of_cutAt? {w s p q : Text} (h : cutAt? w s = some (p, q)) : FirstCut w s p q where
  text := eq_of_cutAt? h
  first p' q' htext := by
    induction s generalizing p p' with
    | nil =>
      have hp : p = [] := by
        have hnil := eq_of_cutAt? h
        simp_all
      rw [hp]
      exact Nat.zero_le _
    | cons c r ih =>
      rw [cutAt?] at h
      split at h
      · obtain ⟨rfl, -⟩ := Prod.mk.inj (Option.some.inj h)
        exact Nat.zero_le _
      · next hnone =>
        obtain ⟨⟨a, b⟩, hcut, hab⟩ := Option.map_eq_some_iff.1 h
        obtain ⟨rfl, rfl⟩ := Prod.mk.inj hab
        cases p' with
        | nil =>
          -- the word would stand here
          have hfront : c :: r = w ++ q' := htext
          rw [dropPrefix?_eq_some_iff.2 hfront] at hnone
          cases hnone
        | cons d p' =>
          have hrest : r = p' ++ w ++ q' := (List.cons.inj htext).2
          exact Nat.succ_le_succ (ih hcut p' hrest)

/-- If the word occurs, `cutAt?` finds it. -/
theorem exists_cutAt? {w s : Text} (h : w <:+: s) : ∃ p q, cutAt? w s = some (p, q) := by
  induction s with
  | nil =>
    obtain rfl := List.infix_nil.1 h
    exact ⟨[], [], rfl⟩
  | cons c r ih =>
    rw [cutAt?]
    split
    · next t ht => exact ⟨[], t, rfl⟩
    · next hnone =>
      rcases List.infix_cons_iff.1 h with ⟨t, ht⟩ | hin
      · rw [dropPrefix?_eq_some_iff.2 ht.symm] at hnone
        cases hnone
      · obtain ⟨p, q, hcut⟩ := ih hin
        exact ⟨c :: p, q, by rw [hcut]; rfl⟩

/-- `cutAt?` finds the first occurrence and no other. -/
theorem cutAt?_eq_some_iff {w s p q : Text} : cutAt? w s = some (p, q) ↔ FirstCut w s p q := by
  constructor
  · exact firstCut_of_cutAt?
  · intro h
    obtain ⟨p', q', hcut⟩ := exists_cutAt? h.isInfix
    obtain ⟨rfl, rfl⟩ := h.unique (firstCut_of_cutAt? hcut)
    exact hcut

/-- `cutAt?` finds nothing exactly if the word does not occur. -/
theorem cutAt?_eq_none_iff {w s : Text} : cutAt? w s = none ↔ ¬ w <:+: s := by
  constructor
  · intro hnone h
    obtain ⟨p, q, hcut⟩ := exists_cutAt? h
    rw [hcut] at hnone
    cases hnone
  · intro h
    cases hcut : cutAt? w s with
    | none => rfl
    | some cut => exact absurd (firstCut_of_cutAt? hcut).isInfix h

/-- A word that cannot overlap itself occurs first where it was put, if the text in front of it is silent. -/
theorem firstCut_of_silent {c : Char} {w p : Text} (hc : c ∉ w) (hp : ¬ c :: w <:+: p) (q : Text) :
    FirstCut (c :: w) (p ++ c :: w ++ q) p q := by
  refine firstCut_of_cutAt? ?_
  induction p with
  | nil =>
    have hfront : dropPrefix? (c :: w) (c :: (w ++ q)) = some q := dropPrefix?_eq_some_iff.2 rfl
    show cutAt? (c :: w) (c :: (w ++ q)) = _
    rw [cutAt?, hfront]
  | cons d p ih =>
    have hrest : ¬ c :: w <:+: p := fun hin => hp (List.infix_cons hin)
    -- an occurrence that begins here would reach the next one, whose first character it does not hold
    have hnone : dropPrefix? (c :: w) (d :: (p ++ c :: w ++ q)) = none := by
      cases hdrop : dropPrefix? (c :: w) (d :: p) with
      | some t => exact absurd ⟨[], t, (dropPrefix?_eq_some_iff.1 hdrop).symm⟩ hp
      | none =>
        rw [dropPrefix?] at hdrop ⊢
        split at hdrop
        · next he =>
          have hhead : ∀ x, (c :: w ++ q).head? = some x → x ∉ w := by
            rintro x hx
            obtain rfl : c = x := Option.some.inj hx
            exact hc
          rw [if_pos he, List.append_assoc, dropPrefix?_append_of_not_mem hhead, hdrop]
          rfl
        · next he => rw [if_neg he]
    show cutAt? (c :: w) (d :: (p ++ c :: w ++ q)) = _
    rw [cutAt?, hnone, ih hrest]
    rfl

end Text

open Text (FirstCut IsBoundary byteLength dropBytes? slice?)

namespace Return

/-! ## Characters -/

/-- The word that tells that a type follows. -/
def iteratorWord : Text := "iterator".toList

/-- The type that the line gives, told by characters. -/
inductive NamesIterator (line : Text) : Text → Prop where
  /-- The line does not speak of an iterator. -/
  | silent : ¬ iteratorWord <:+: line → NamesIterator line []
  /-- Four bytes behind the word are whole characters, and the type comes behind them. -/
  | behind {p m t : Text} : FirstCut iteratorWord line p (m ++ t) → byteLength m = 4 → NamesIterator line t
  /-- The line ends too soon, or the fourth byte is inside a character. -/
  | cut {p q : Text} : FirstCut iteratorWord line p q → (∀ m t, q = m ++ t → byteLength m ≠ 4) →
    NamesIterator line []

/-- The letter `i` does not come back in the word, so the word cannot overlap itself. -/
theorem firstCut_iteratorWord {p : Text} (hp : ¬ iteratorWord <:+: p) (q : Text) :
    FirstCut iteratorWord (p ++ iteratorWord ++ q) p q := by
  have hword : iteratorWord = 'i' :: "terator".toList := by decide
  rw [hword] at hp ⊢
  exact Text.firstCut_of_silent (by decide) hp q

/-- A line that does not speak of an iterator gives no type. -/
theorem iteratorType_of_silent {line : Text} (h : ¬ iteratorWord <:+: line) : iteratorType line = [] := by
  have hnone : Text.cutAt? "iterator".toList line = none := Text.cutAt?_eq_none_iff.2 h
  rw [iteratorType, hnone]

/-- Four bytes behind the word are passed, and the type is what is left, if these bytes are whole characters. -/
theorem iteratorType_of_firstCut {line p q : Text} (h : FirstCut iteratorWord line p q) :
    iteratorType line = (dropBytes? 4 q).getD [] := by
  have hcut : Text.cutAt? "iterator".toList line = some (p, q) := Text.cutAt?_eq_some_iff.2 h
  rw [iteratorType, hcut]

/-- Every line obeys the rule. -/
theorem namesIterator_iteratorType (line : Text) : NamesIterator line (iteratorType line) := by
  by_cases h : iteratorWord <:+: line
  · obtain ⟨p, q, hcut⟩ := Text.exists_cutAt? h
    have hfirst : FirstCut iteratorWord line p q := Text.firstCut_of_cutAt? hcut
    rw [iteratorType_of_firstCut hfirst]
    cases hdrop : dropBytes? 4 q with
    | some t =>
      obtain ⟨m, rfl, hm⟩ := Text.dropBytes?_eq_some_iff.1 hdrop
      exact .behind hfirst hm
    | none => exact .cut hfirst (Text.dropBytes?_eq_none_iff.1 hdrop)
  · rw [iteratorType_of_silent h]
    exact .silent h

/-- The rule leaves one type. -/
theorem NamesIterator.eq {line t : Text} (h : NamesIterator line t) : iteratorType line = t := by
  cases h with
  | silent hnot => exact iteratorType_of_silent hnot
  | @behind p m t hfirst hm =>
    rw [iteratorType_of_firstCut hfirst, Text.dropBytes?_eq_some_iff.2 ⟨m, rfl, hm⟩]
    rfl
  | cut hfirst hnone =>
    rw [iteratorType_of_firstCut hfirst, Text.dropBytes?_eq_none_iff.2 hnone]
    rfl

/-! ## Bytes -/

/-- Four bytes behind the word are twelve behind its place. -/
theorem dropBytes?_of_firstCut {line p q : Text} (h : FirstCut iteratorWord line p q) :
    dropBytes? (byteLength p + 12) line = dropBytes? 4 q := by
  have hword : byteLength iteratorWord = 8 := by decide
  have hplace : byteLength p + 12 = byteLength (p ++ iteratorWord) + 4 := by
    rw [Text.byteLength_append, hword]
  rw [hplace, h.text, Text.dropBytes?_append]

/-- **The type of an iterator.**  The type that a line gives is the one that the rule on characters names.  In bytes, it is
    the slice from twelve bytes behind the place of the word to the end of the line; if the line cannot be cut there, no
    slice is taken, and the type is empty.  So it is always the end of the line, and all that comes behind `iterator of `
    if the word does not stand in front of that. -/
theorem iteratorType_eq_iff_names :
    (∀ line t, iteratorType line = t ↔ NamesIterator line t)
    ∧ (∀ line p q, FirstCut iteratorWord line p q →
        let place := byteLength p + 12
        IsBoundary line place ∧ slice? place (byteLength line) line = some (iteratorType line)
        ∨ ¬ IsBoundary line place ∧ iteratorType line = [])
    ∧ (∀ line, iteratorType line <:+ line)
    ∧ ∀ p t, ¬ iteratorWord <:+: p → iteratorType (p ++ "iterator of ".toList ++ t) = t := by
  refine ⟨?_, ?_, iteratorType_suffix, ?_⟩
  · intro line t
    constructor
    · rintro rfl
      exact namesIterator_iteratorType line
    · exact NamesIterator.eq
  · intro line p q hfirst place
    -- twelve bytes behind the place of the word is four bytes behind its end
    have hplace : dropBytes? place line = dropBytes? 4 q := dropBytes?_of_firstCut hfirst
    rw [Text.slice?_end, Text.isBoundary_iff, hplace, iteratorType_of_firstCut hfirst]
    cases dropBytes? 4 q with
    | some t => exact Or.inl ⟨⟨t, rfl⟩, rfl⟩
    | none => exact Or.inr ⟨by simp, rfl⟩
  · intro p t hp
    have hfirst : FirstCut iteratorWord (p ++ iteratorWord ++ (" of ".toList ++ t)) p (" of ".toList ++ t) :=
      firstCut_iteratorWord hp _
    -- ` of ` is four bytes, and nothing is cut in them
    have hwords : "iterator of ".toList = iteratorWord ++ " of ".toList := by decide
    have htext : p ++ "iterator of ".toList ++ t = p ++ iteratorWord ++ (" of ".toList ++ t) := by
      rw [hwords, List.append_assoc, List.append_assoc, List.append_assoc]
    rw [htext]
    exact NamesIterator.eq (.behind hfirst (by decide))

/-- The fourth byte is inside a character. -/
example : iteratorType "iterator  日".toList = [] := by decide

/-- A part of the word comes first, the word comes twice, and the four bytes may be three characters. -/
theorem iteratorType_eq_iff_names_sample :
    let p := "Zähler, iterat: ".toList
    let line := p ++ iteratorWord ++ " öf Item".toList
    ¬ iteratorWord <:+: p ∧ iteratorType (p ++ "iterator of ".toList ++ "iterator of x".toList) = "iterator of x".toList
      ∧ FirstCut iteratorWord line p " öf Item".toList ∧ iteratorType line = " Item".toList := by
  intro p line
  have hp : ¬ iteratorWord <:+: p := by decide +kernel
  have hfirst : FirstCut iteratorWord line p " öf Item".toList := firstCut_iteratorWord hp _
  have hplace : IsBoundary line (byteLength p + 12) :=
    ⟨p ++ iteratorWord ++ " öf".toList, " Item".toList, by decide +kernel, by decide +kernel⟩
  have hslice : slice? (byteLength p + 12) (byteLength line) line = some " Item".toList := by decide +kernel
  refine ⟨hp, iteratorType_eq_iff_names.2.2.2 p _ hp, hfirst, ?_⟩
  rcases iteratorType_eq_iff_names.2.1 line p _ hfirst with ⟨-, htaken⟩ | ⟨hnot, -⟩
  · exact (Option.some.inj (hslice.symm.trans htaken)).symm
  · exact absurd hplace hnot

end Return

end DocStub

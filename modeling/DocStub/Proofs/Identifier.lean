/-
  Normal forms of names.

  1. **Reserved words** — `IsReservedWord` says which words belong to the reserved name space.  It depends on a word
     only up to the case of ASCII letters, and a word that is not reserved is not made reserved by its
     capital (`isReservedWord_of_capitalize`): no letter but C and L becomes a C or an L.
  2. **The two branches** — so the name itself tells from which of them it comes
     (`isReservedWord_text_iff`), and they share no name.
  3. **Normal forms** — `IsNormal` says what a name looks like, whatever it was made from.  Every name is normal, and
     a normal text is its own name (`normalize_of_isNormal`); idempotence is a consequence.
-/
import DocStub.Identifier
import DocStub.Proofs.Text.Capital

namespace DocStub.Identifier

/-! ## Reserved words -/

/-- The word begins with `lotj`, or is `core`, in any case of the ASCII letters. -/
def IsReservedWord (w : Text) : Prop :=
  (∃ front rest, w = front ++ rest ∧ Text.asciiLower front = "lotj".toList)
    ∨ Text.asciiLower w = "core".toList

/-- Reserved words are reserved in every mixture of cases. -/
theorem isReservedWord_iff_asciiLower (w : Text) :
    IsReservedWord w ↔ (Text.asciiLower w).take 4 = "lotj".toList ∨ Text.asciiLower w = "core".toList := by
  refine or_congr_left ?_
  constructor
  · rintro ⟨front, rest, rfl, hfront⟩
    rw [Text.asciiLower, List.map_append]
    show (Text.asciiLower front ++ _).take 4 = _
    rw [hfront]
    rfl
  · intro h
    refine ⟨w.take 4, w.drop 4, (List.take_append_drop 4 w).symm, ?_⟩
    rw [Text.asciiLower, List.map_take]
    exact h

/-- The test of the program finds exactly the reserved words. -/
theorem isReserved_iff (w : Text) : isReserved w = true ↔ IsReservedWord w := by
  rw [isReserved, Bool.or_eq_true, isReservedWord_iff_asciiLower]
  refine or_congr ?_ ?_
  · rw [Text.sameIgnoringCase, beq_iff_eq, Text.asciiLower, List.map_take]
    rfl
  · rw [Text.sameIgnoringCase, beq_iff_eq]
    rfl

instance (w : Text) : Decidable (IsReservedWord w) := decidable_of_iff _ (isReserved_iff w)

/-- The case of ASCII letters does not matter. -/
theorem IsReservedWord.congr {v w : Text} (h : IsReservedWord v) (hvw : Text.asciiLower v = Text.asciiLower w) :
    IsReservedWord w := by
  rw [isReservedWord_iff_asciiLower, ← hvw, ← isReservedWord_iff_asciiLower]
  exact h

/-- A reserved word begins with a C or an L, in one case or the other. -/
theorem IsReservedWord.first {c : Char} {r : Text} (h : IsReservedWord (c :: r)) :
    c.toLower = 'c' ∨ c.toLower = 'l' := by
  rcases (isReservedWord_iff_asciiLower _).1 h with h | h
  · exact Or.inr (List.cons.inj h).1
  · exact Or.inl (List.cons.inj h).1

/-- What begins with the reserved prefix is reserved. -/
theorem isReservedWord_append (s : Text) : IsReservedWord (reserved ++ s) :=
  Or.inl ⟨reserved, s, rfl, by decide⟩

/-! ## Capital form -/

theorem capitalize_cons {c d : Char} {t : Text} (h : Text.capitals c = d :: t) (r : Text) :
    capitalize (c :: r) = d :: (t ++ r) := by
  rw [capitalize, h, List.cons_append]

theorem exists_capitals_eq_cons (c : Char) : ∃ d t, Text.capitals c = d :: t :=
  List.exists_cons_of_ne_nil (Text.capitals_ne_nil c)

/-- A word that is reserved once it has a capital was reserved before. -/
theorem isReservedWord_of_capitalize {w : Text} (h : IsReservedWord (capitalize w)) : IsReservedWord w := by
  cases w with
  | nil => exact h
  | cons c r =>
    obtain ⟨d, t, hd⟩ := exists_capitals_eq_cons c
    rw [capitalize_cons hd] at h
    -- the capital is a C or an L, so it is a single one, and the character is that letter
    obtain ⟨rfl, hlower⟩ := Text.eq_of_capitals hd h.first
    refine h.congr ?_
    show d.toLower :: Text.asciiLower r = c.toLower :: Text.asciiLower r
    rw [hlower]

/-- Only the empty word has an empty capital form. -/
theorem capitalize_eq_nil_iff {w : Text} : capitalize w = [] ↔ w = [] := by
  cases w with
  | nil => exact Iff.rfl
  | cons c r =>
    obtain ⟨d, t, hd⟩ := exists_capitals_eq_cons c
    rw [capitalize_cons hd]
    exact iff_of_false (List.cons_ne_nil d _) (List.cons_ne_nil c r)

/-- A capital brings in no separator. -/
theorem separator_not_mem_capitalize {w : Text} (h : '_' ∉ w) : '_' ∉ capitalize w := by
  cases w with
  | nil => exact h
  | cons c r =>
    obtain ⟨hc, hr⟩ := not_or.1 (mt List.mem_cons.2 h)
    rw [capitalize, List.mem_append, not_or]
    exact ⟨Text.not_mem_capitals (by decide +kernel) (Ne.symm hc), hr⟩

/-! ## The two branches -/

theorem eq_of_text {m n : Identifier} (h : m.text = n.text) : m = n := by
  cases m
  cases n
  exact congrArg mk h

/-- What is left of a raw name has no separators. -/
theorem separator_not_mem_word (raw : Text) : '_' ∉ word raw := by
  simp [word]

/-- A reserved word keeps what follows its first four characters, behind the reserved prefix. -/
theorem text_of_reserved {raw : Text} (h : IsReservedWord (word raw)) :
    (normalize raw).text = reserved ++ (word raw).drop 4 :=
  if_pos ((isReserved_iff _).2 h)

/-- Every other word gets a capital. -/
theorem text_of_not_reserved {raw : Text} (h : ¬ IsReservedWord (word raw)) :
    (normalize raw).text = capitalize (word raw) :=
  if_neg (mt (isReserved_iff _).1 h)

/-- A name is in the reserved name space exactly if its word is. -/
theorem isReservedWord_text_iff (raw : Text) : IsReservedWord (normalize raw).text ↔ IsReservedWord (word raw) := by
  by_cases h : IsReservedWord (word raw)
  · rw [text_of_reserved h]
    exact iff_of_true (isReservedWord_append _) h
  · rw [text_of_not_reserved h]
    exact iff_of_false (mt isReservedWord_of_capitalize h) h

/-- The reserved name space is entered under one spelling only. -/
theorem reserved_prefix_text_iff (raw : Text) : reserved <+: (normalize raw).text ↔ IsReservedWord (word raw) := by
  constructor
  · rintro ⟨s, hs⟩
    rw [← isReservedWord_text_iff, ← hs]
    exact isReservedWord_append s
  · intro h
    rw [text_of_reserved h]
    exact List.prefix_append ..

/-- A word may begin with `core`; it is reserved only if it is that word. -/
example : (normalize "coreutils".toList).text = "Coreutils".toList ∧ (normalize "CORE".toList).text = reserved := by
  decide

/-- A name is empty if there was nothing in it but separators. -/
theorem text_eq_nil_iff (raw : Text) : (normalize raw).text = [] ↔ ∀ c ∈ raw, c = '_' := by
  have hword : word raw = [] ↔ ∀ c ∈ raw, c = '_' := by simp [word]
  by_cases h : IsReservedWord (word raw)
  · have hne : word raw ≠ [] := by
      intro hnil
      rw [hnil] at h
      exact absurd h (by decide)
    rw [text_of_reserved h, ← hword]
    exact iff_of_false (List.append_ne_nil_of_left_ne_nil (by decide) _) hne
  · rw [text_of_not_reserved h, capitalize_eq_nil_iff, hword]

/-! ## Normal forms -/

/-- The text is the name of something. -/
structure IsNormal (t : Text) : Prop where
  separator : '_' ∉ t
  /-- The first character is its own capital form. -/
  capital : ∀ c ∈ t.head?, Text.capitals c = [c]
  core : Text.asciiLower t ≠ "core".toList
  /-- The reserved name space is spelled in one way. -/
  lotj : Text.asciiLower (t.take 4) = "lotj".toList → t.take 4 = "LOTJ".toList

/-- A name in the reserved name space is normal. -/
theorem isNormal_append {s : Text} (h : '_' ∉ s) : IsNormal (reserved ++ s) where
  separator := by
    rw [List.mem_append, not_or]
    exact ⟨by decide, h⟩
  capital c hc := by
    obtain rfl : 'L' = c := Option.some.inj hc
    decide
  core hcore := by
    obtain ⟨hfirst, -⟩ := List.cons.inj hcore
    exact absurd hfirst (by decide)
  lotj _ := rfl

/-- A word that is not reserved is normal once it has a capital. -/
theorem isNormal_capitalize {w : Text} (hw : '_' ∉ w) (h : ¬ IsReservedWord w) : IsNormal (capitalize w) where
  separator := separator_not_mem_capitalize hw
  capital d hd := by
    cases w with
    | nil => cases hd
    | cons c r =>
      obtain ⟨e, t, he⟩ := exists_capitals_eq_cons c
      rw [capitalize_cons he] at hd
      obtain rfl : e = d := Option.some.inj hd
      exact Text.capitals_of_capitals he
  core hcore := h (isReservedWord_of_capitalize (Or.inr hcore))
  lotj hlotj := absurd (isReservedWord_of_capitalize
    (Or.inl ⟨_, _, (List.take_append_drop 4 (capitalize w)).symm, hlotj⟩)) h

/-- Every name is normal. -/
theorem isNormal_text (raw : Text) : IsNormal (normalize raw).text := by
  have hword : '_' ∉ word raw := separator_not_mem_word raw
  by_cases h : IsReservedWord (word raw)
  · rw [text_of_reserved h]
    exact isNormal_append fun hmem => hword (List.mem_of_mem_drop hmem)
  · rw [text_of_not_reserved h]
    exact isNormal_capitalize hword h

/-- A normal text is its own name. -/
theorem normalize_of_isNormal {t : Text} (h : IsNormal t) : normalize t = ⟨t⟩ := by
  have hword : word t = t := by
    refine List.filter_eq_self.2 fun c hc => ?_
    rw [bne_iff_ne]
    rintro rfl
    exact h.separator hc
  -- a normal name that is reserved is spelled with the reserved prefix already, and any other one has its capital
  have htext : (normalize t).text = t := by
    by_cases hreserved : IsReservedWord (word t)
    · rw [text_of_reserved hreserved, hword]
      rw [hword] at hreserved
      rcases (isReservedWord_iff_asciiLower t).1 hreserved with hlotj | hcore
      · have hfront : t.take 4 = reserved := h.lotj (by rw [Text.asciiLower, List.map_take]; exact hlotj)
        rw [← hfront, List.take_append_drop]
      · exact absurd hcore h.core
    · rw [text_of_not_reserved hreserved, hword]
      cases t with
      | nil => rfl
      | cons c r => rw [capitalize, h.capital c rfl, List.singleton_append]
  exact eq_of_text htext

/-- **Every name is normal.**  It is empty only if nothing but separators was there, and it is its own name. -/
theorem isNormal_normalize (raw : Text) :
    IsNormal (normalize raw).text
    ∧ ((normalize raw).text = [] ↔ ∀ c ∈ raw, c = '_')
    ∧ normalize (normalize raw).text = normalize raw :=
  ⟨isNormal_text raw, text_eq_nil_iff raw, normalize_of_isNormal (isNormal_text raw)⟩

/-! ## Which raw names share a name -/

/-- The capital form, told without cases. -/
theorem capitalize_eq (w : Text) : capitalize w = (w.take 1).flatMap Text.capitals ++ w.drop 1 := by
  cases w with
  | nil => rfl
  | cons c r =>
    show Text.capitals c ++ r = [c].flatMap Text.capitals ++ r
    rw [List.flatMap_singleton]

/-- **Two raw names have one name** exactly if both are reserved, and say the same behind that, or neither is, and
    they are the same with their first characters in capital form.  A raw name that is not reserved does not
    get into the reserved name space, under any spelling. -/
theorem normalize_eq_normalize_iff (a b : Text) :
    let word (raw : Text) : Text := raw.filter (· != '_')
    let capital (w : Text) : Text := (w.take 1).flatMap Text.capitals ++ w.drop 1
    (normalize a = normalize b ↔
      (IsReservedWord (word a) ∧ IsReservedWord (word b) ∧ (word a).drop 4 = (word b).drop 4)
      ∨ (¬ IsReservedWord (word a) ∧ ¬ IsReservedWord (word b) ∧ capital (word a) = capital (word b)))
    ∧ (IsReservedWord (normalize a).text ↔ IsReservedWord (word a))
    ∧ ("LOTJ".toList <+: (normalize a).text ↔ IsReservedWord (word a)) := by
  intro w capital
  have hcapital (raw : Text) : capital (w raw) = capitalize (word raw) := (capitalize_eq (word raw)).symm
  rw [hcapital, hcapital]
  refine ⟨?_, isReservedWord_text_iff a, reserved_prefix_text_iff a⟩
  constructor
  · intro h
    -- the name tells whether the word was reserved, so both are or neither is
    have hreserved : IsReservedWord (word a) ↔ IsReservedWord (word b) := by
      rw [← isReservedWord_text_iff, h, isReservedWord_text_iff]
    have htext : (normalize a).text = (normalize b).text := by rw [h]
    by_cases ha : IsReservedWord (word a)
    · have hb := hreserved.1 ha
      rw [text_of_reserved ha, text_of_reserved hb] at htext
      exact Or.inl ⟨ha, hb, List.append_cancel_left htext⟩
    · have hb := mt hreserved.2 ha
      rw [text_of_not_reserved ha, text_of_not_reserved hb] at htext
      exact Or.inr ⟨ha, hb, htext⟩
  · intro h
    have htext : (normalize a).text = (normalize b).text := by
      rcases h with ⟨ha, hb, hrest⟩ | ⟨ha, hb, hcapital⟩
      · rw [text_of_reserved ha, text_of_reserved hb]
        exact congrArg (reserved ++ ·) hrest
      · rw [text_of_not_reserved ha, text_of_not_reserved hb, hcapital]
    exact eq_of_text htext

end DocStub.Identifier

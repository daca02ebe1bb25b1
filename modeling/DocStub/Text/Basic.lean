/-
  Text as a list of characters, and the few operations every other module needs.

  All reading and writing in this library is done on `Text`, so that a rule about a text is a rule about
  a list: cutting a known word off the front (`dropPrefix?`), looking for the first occurrence of a word
  (`cutAt?`), and the case maps of the ASCII letters.  Strings appear only as literals and at the
  outermost layer.
-/

namespace DocStub

/-- A text is the list of its characters. -/
abbrev Text := List Char

namespace Text

/-- A number in decimal digits. -/
def ofNat (n : Nat) : Text := (toString n).toList

/-! ## Words at the front of a text -/

/-- What is left of `s` after the word `w`, if `s` begins with `w`. -/
def dropPrefix? : Text → Text → Option Text
  | [], s => some s
  | _ :: _, [] => none
  | w :: ws, c :: cs => if w = c then dropPrefix? ws cs else none

/-- What is left behind a word is left exactly if the text begins with the word. -/
theorem dropPrefix?_eq_some_iff {w s r : Text} : dropPrefix? w s = some r ↔ s = w ++ r := by
  induction w generalizing s with
  | nil => simp [dropPrefix?, eq_comm]
  | cons x xs ih =>
    cases s with
    | nil => simp [dropPrefix?]
    | cons c cs =>
      by_cases h : x = c
      · simp [dropPrefix?, h, ih]
      · simp [dropPrefix?, h, Ne.symm h]

/-- The part of `s` before the first occurrence of `w`, and the part after it. -/
def cutAt? (w : Text) : Text → Option (Text × Text)
  | [] => (dropPrefix? w []).map fun r => ([], r)
  | c :: cs =>
    match dropPrefix? w (c :: cs) with
    | some r => some ([], r)
    | none => (cutAt? w cs).map fun p => (c :: p.1, p.2)

/-- The two parts, with the word between them, are the whole text. -/
theorem eq_of_cutAt? {w s a b : Text} (h : cutAt? w s = some (a, b)) : s = a ++ w ++ b := by
  induction s generalizing a with
  | nil =>
    simp only [cutAt?, Option.map_eq_some_iff] at h
    obtain ⟨r, hr, he⟩ := h
    obtain ⟨rfl, rfl⟩ := Prod.mk.inj he
    simpa using dropPrefix?_eq_some_iff.1 hr
  | cons c cs ih =>
    simp only [cutAt?] at h
    split at h
    · next r hr =>
      obtain ⟨rfl, rfl⟩ := Prod.mk.inj (Option.some.inj h)
      simpa using dropPrefix?_eq_some_iff.1 hr
    · simp only [Option.map_eq_some_iff] at h
      obtain ⟨p, hp, he⟩ := h
      obtain ⟨rfl, rfl⟩ := Prod.mk.inj he
      simp [ih (a := p.1) (by rw [hp])]

/-! ## ASCII letters -/

/-- The text with the ASCII capital letters made small, all else unchanged. -/
def asciiLower (s : Text) : Text := s.map Char.toLower

/-- Two texts that differ at most in the case of ASCII letters. -/
def sameIgnoringCase (a b : Text) : Bool := asciiLower a == asciiLower b

/-- What is left after the word `w`, written in any ASCII case. -/
def dropWordIgnoringCase? (w s : Text) : Option Text :=
  if sameIgnoringCase w (s.take w.length) then some (s.drop w.length) else none

end Text

end DocStub

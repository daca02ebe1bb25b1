/-
  Character references: what `&…` stands for.

  1. **Numeric** — `&#` and decimal digits, or `&#x` and hexadecimal digits, name a code point.  Code
     points that are no characters become U+FFFD, and the control characters 80 to 9F stand for the
     characters of an old eight-bit code (`eightBit`).  The final `;` may be missing.
  2. **Named** — the longest listed name wins.  A name with its `;` is always read; an old name without
     it is read too, but inside an attribute value not before `=`, a letter or a digit.
  3. **Faults** — a reference that is read although it is written badly is `faulty`; the text is the same,
     but a newline that was written so is not the newline that directly follows a start tag.

  `decode?` is given the text after `&`.  It always leaves less than it was given
  (`length_rest_of_decode?`), so that reading on comes to an end.
-/
import DocStub.Markup.CharRef.Named
import DocStub.Text.Number

namespace DocStub.Markup.CharRef

/-- A reference that was read: the text it stands for, what follows it, and whether it was ill written. -/
structure Decoded where
  text : Text
  rest : Text
  faulty : Bool

/-! ## Numeric references -/

/-- The characters that the code points 80 to 9F (hexadecimal) stand for. -/
def eightBit : List Nat :=
  [0x20AC, 0x81, 0x201A, 0x0192, 0x201E, 0x2026, 0x2020, 0x2021, 0x02C6, 0x2030, 0x0160, 0x2039,
   0x0152, 0x8D, 0x017D, 0x8F, 0x90, 0x2018, 0x2019, 0x201C, 0x201D, 0x2022, 0x2013, 0x2014,
   0x02DC, 0x2122, 0x0161, 0x203A, 0x0153, 0x9D, 0x017E, 0x0178]

/-- The character that stands for what cannot be shown. -/
def replacement : Char := Char.ofNat 0xFFFD

/-- The character that a code point stands for. -/
def ofCodePoint (n : Nat) : Char :=
  if n = 0 ∨ 0x10FFFF < n ∨ (0xD800 ≤ n ∧ n ≤ 0xDFFF) then replacement
  else if 0x80 ≤ n ∧ n ≤ 0x9F then Char.ofNat (eightBit.getD (n - 0x80) 0)
  else Char.ofNat n

/-- Code points that should not be written as references: no characters, and control characters. -/
def isIrregular (n : Nat) : Bool :=
  n = 0 || 0x10FFFF < n || (0xD800 ≤ n && n ≤ 0xDFFF) || (1 ≤ n && n ≤ 8) || n = 0x0B
    || (0x0D ≤ n && n ≤ 0x1F) || (0x7F ≤ n && n ≤ 0x9F) || (0xFDD0 ≤ n && n ≤ 0xFDEF)
    || 0xFFFE ≤ n % 0x10000

/-- Reads the digits of a numeric reference, given the text after `&#` or `&#x`. -/
def decodeNumber? (base : Nat) (isDigit : Char → Bool) (s : Text) : Option Decoded :=
  let digits := s.takeWhile isDigit
  let n := Text.numberOf base digits
  match digits, s.dropWhile isDigit with
  | [], _ => none
  | _ :: _, ';' :: r => some ⟨[ofCodePoint n], r, isIrregular n⟩
  | _ :: _, r => some ⟨[ofCodePoint n], r, true⟩

/-! ## Named references -/

/-- The longest old name that `run` begins with. -/
def bareName? (run : Text) : Option Text :=
  (bareNames.find? fun name => name.toList.isPrefixOf run).map String.toList

/-- Inside an attribute value, what may not follow an old name without its `;`. -/
def blocksBareName : Text → Bool
  | [] => false
  | c :: _ => c = '=' || c.isAlphanum

/-- Reads a named reference, given the text after `&`. -/
def decodeName? (inAttribute : Bool) (s : Text) : Option Decoded :=
  let run := s.takeWhile Char.isAlphanum
  match s.dropWhile Char.isAlphanum, named? run with
  | ';' :: r, some text => some ⟨text, r, false⟩
  | _, _ =>
    match bareName? run with
    | none => none
    | some name =>
      let r := s.drop name.length
      if inAttribute && blocksBareName r then none
      else (named? name).map fun text => ⟨text, r, true⟩

/-! ## All references -/

/-- Reads a reference, given the text after `&`; `none` if the `&` stands for itself. -/
def decode? (inAttribute : Bool) : Text → Option Decoded
  | '#' :: 'x' :: r => decodeNumber? 16 Text.isHexDigit r
  | '#' :: 'X' :: r => decodeNumber? 16 Text.isHexDigit r
  | '#' :: r => decodeNumber? 10 Char.isDigit r
  | s => decodeName? inAttribute s

/-! ## A reference leaves less than it was given -/

theorem length_dropWhile_le (test : Char → Bool) (s : Text) :
    (s.dropWhile test).length ≤ s.length :=
  (List.dropWhile_sublist test).length_le

/-- A reference by number leaves no more than it got. -/
theorem length_rest_of_decodeNumber? {base : Nat} {isDigit : Char → Bool} {s : Text} {d : Decoded}
    (h : decodeNumber? base isDigit s = some d) : d.rest.length ≤ s.length := by
  have hle := length_dropWhile_le isDigit s
  simp only [decodeNumber?] at h
  split at h
  · exact absurd h (by simp)
  · next hr => rw [hr] at hle; simp only [List.length_cons] at hle; cases h; simp only; omega
  · cases h; exact hle

/-- A reference by name leaves no more than it got. -/
theorem length_rest_of_decodeName? {inAttribute : Bool} {s : Text} {d : Decoded}
    (h : decodeName? inAttribute s = some d) : d.rest.length ≤ s.length := by
  have hle := length_dropWhile_le Char.isAlphanum s
  simp only [decodeName?] at h
  split at h
  · next hr _ => rw [hr] at hle; simp only [List.length_cons] at hle; cases h; simp only; omega
  · split at h
    · exact absurd h (by simp)
    · split at h
      · exact absurd h (by simp)
      · obtain ⟨_, _, rfl⟩ := Option.map_eq_some_iff.1 h
        simp

/-- A reference never makes the text behind it longer, so decoding comes to an end. -/
theorem length_rest_of_decode? {inAttribute : Bool} {s : Text} {d : Decoded}
    (h : decode? inAttribute s = some d) : d.rest.length ≤ s.length := by
  unfold decode? at h
  split at h
  · have := length_rest_of_decodeNumber? h; simp only [List.length_cons]; omega
  · have := length_rest_of_decodeNumber? h; simp only [List.length_cons]; omega
  · have := length_rest_of_decodeNumber? h; simp only [List.length_cons]; omega
  · exact length_rest_of_decodeName? h

end DocStub.Markup.CharRef

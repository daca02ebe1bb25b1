/-
  Texts and their UTF-8 bytes.

  1. **Offsets** — some rules count bytes.  `dropBytes? n` takes `n` bytes off the front of a text, and
     `splitBytes? n` gives them too, if that is a whole number of characters.
  2. **Decoding** — a file is a list of bytes; `decodeUtf8?` is its text, if it is well-formed UTF-8.
-/
import DocStub.Text.Basic

namespace DocStub.Text

/-- The text after its first `n` bytes, unless that place is inside a character or past the end. -/
def dropBytes? : Nat → Text → Option Text
  | 0, s => some s
  | _ + 1, [] => none
  | n + 1, c :: r => if c.utf8Size ≤ n + 1 then dropBytes? (n + 1 - c.utf8Size) r else none

/-- The first `n` bytes of a text, and what follows them. -/
def splitBytes? : Nat → Text → Option (Text × Text)
  | 0, s => some ([], s)
  | _ + 1, [] => none
  | n + 1, c :: r =>
    if c.utf8Size ≤ n + 1 then
      (splitBytes? (n + 1 - c.utf8Size) r).map fun p => (c :: p.1, p.2)
    else none

/-- The number of bytes of a text. -/
def byteLength : Text → Nat
  | [] => 0
  | c :: r => c.utf8Size + byteLength r

/-- The two parts are the whole text, and the first has the bytes that were asked for. -/
theorem eq_append_of_splitBytes? {n : Nat} {s a b : Text} (h : splitBytes? n s = some (a, b)) :
    s = a ++ b ∧ byteLength a = n := by
  induction s generalizing n a b with
  | nil =>
    cases n with
    | zero =>
      simp only [splitBytes?, Option.some.injEq, Prod.mk.injEq] at h
      obtain ⟨rfl, rfl⟩ := h
      exact ⟨rfl, rfl⟩
    | succ n => simp [splitBytes?] at h
  | cons c r ih =>
    cases n with
    | zero =>
      simp only [splitBytes?, Option.some.injEq, Prod.mk.injEq] at h
      obtain ⟨rfl, rfl⟩ := h
      exact ⟨rfl, rfl⟩
    | succ n =>
      rw [splitBytes?] at h
      split at h
      next hc =>
        obtain ⟨p, hp, hq⟩ := Option.map_eq_some_iff.1 h
        obtain ⟨rfl, rfl⟩ := Prod.mk.inj hq
        obtain ⟨h₁, h₂⟩ := ih hp
        refine ⟨by rw [h₁, List.cons_append], ?_⟩
        rw [byteLength, h₂]
        omega
      next => simp at h

/-- The bytes of a text. -/
def encodeUtf8 (s : Text) : List UInt8 := (String.ofList s).toUTF8.toList

/-- The text that the bytes encode, if they are well formed. -/
def decodeUtf8? (bytes : List UInt8) : Option Text :=
  (String.fromUTF8? ⟨bytes.toArray⟩).map String.toList

end DocStub.Text

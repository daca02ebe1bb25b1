/-
  Slices of a text.

  1. **Places** — a place in a text is named by the number of bytes in front of it.  It is one where the text
     can be cut only if no character lies across it (`IsBoundary`).
  2. **Slices** — `slice? m n s` is what stands between two places.  There is none if they come in the wrong
     order, lie past the end, or are inside a character; between any two boundaries there is one
     (`slice?_append`).  What is left behind a place is the slice up to the end (`slice?_end`), and there is
     something left exactly behind the boundaries (`isBoundary_iff`).
  3. **Many places** — `Boundaries s m ns` says of places, none of them before `m`, that they come in order and
     that `s` can be cut at each one.
-/
import DocStub.Text.Bytes
import Mathlib.Data.List.Basic

namespace DocStub.Text

/-- The first `n` bytes of the text are a whole number of characters. -/
def IsBoundary (s : Text) (n : Nat) : Prop := ∃ p q, s = p ++ q ∧ byteLength p = n

/-- The part of a text from the byte `m` up to the byte `n`. -/
def slice? (m n : Nat) (s : Text) : Option Text :=
  if m ≤ n then (dropBytes? m s).bind fun r => (splitBytes? (n - m) r).map (·.1) else none

/-! ## Lengths -/

@[simp] theorem byteLength_nil : byteLength [] = 0 := rfl

@[simp] theorem byteLength_cons (c : Char) (s : Text) : byteLength (c :: s) = c.utf8Size + byteLength s := rfl

@[simp] theorem byteLength_append (p q : Text) : byteLength (p ++ q) = byteLength p + byteLength q := by
  induction p with
  | nil => simp
  | cons c p ih =>
    rw [List.cons_append, byteLength_cons, byteLength_cons, ih]
    omega

/-- A boundary is not behind the end. -/
theorem le_byteLength_of_isBoundary {s : Text} {n : Nat} (h : IsBoundary s n) : n ≤ byteLength s := by
  obtain ⟨p, q, rfl, rfl⟩ := h
  rw [byteLength_append]
  omega

/-! ## Cutting where a part ends -/

/-- Behind the bytes of its first part, a text is cut into both parts. -/
theorem splitBytes?_append (p q : Text) : splitBytes? (byteLength p) (p ++ q) = some (p, q) := by
  induction p with
  | nil => cases q <;> rfl
  | cons c p ih =>
    have hc : 0 < c.utf8Size := c.utf8Size_pos
    obtain ⟨n, hn⟩ : ∃ n, c.utf8Size + byteLength p = n + 1 := ⟨c.utf8Size + byteLength p - 1, by omega⟩
    have hrest : n + 1 - c.utf8Size = byteLength p := by omega
    rw [byteLength_cons, hn, List.cons_append, splitBytes?, if_pos (by omega), hrest, ih]
    rfl

/-- Dropping bytes is splitting them off and forgetting them. -/
theorem dropBytes?_eq (n : Nat) (s : Text) : dropBytes? n s = (splitBytes? n s).map (·.2) := by
  fun_induction splitBytes? n s with
  | case1 s => cases s <;> rfl
  | case2 n => rfl
  | case3 n c r h ih =>
    rw [dropBytes?, if_pos h, ih, Option.map_map]
    rfl
  | case4 n c r h => rw [dropBytes?, if_neg h, Option.map_none]

/-- What is left has a number of bytes in front of it, in whole characters. -/
theorem dropBytes?_eq_some_iff {n : Nat} {s t : Text} :
    dropBytes? n s = some t ↔ ∃ m, s = m ++ t ∧ byteLength m = n := by
  rw [dropBytes?_eq, Option.map_eq_some_iff]
  constructor
  · rintro ⟨⟨m, t⟩, hsplit, rfl⟩
    exact ⟨m, eq_append_of_splitBytes? hsplit⟩
  · rintro ⟨m, rfl, rfl⟩
    exact ⟨(m, t), splitBytes?_append m t, rfl⟩

/-- A number of bytes cannot be dropped if no front of the text has that many: it is too large, or inside a character.
    -/
theorem dropBytes?_eq_none_iff {n : Nat} {s : Text} :
    dropBytes? n s = none ↔ ∀ m t, s = m ++ t → byteLength m ≠ n := by
  rw [Option.eq_none_iff_forall_ne_some]
  constructor
  · intro h m t hs hm
    exact h t (dropBytes?_eq_some_iff.2 ⟨m, hs, hm⟩)
  · intro h t ht
    obtain ⟨m, hs, hm⟩ := dropBytes?_eq_some_iff.1 ht
    exact h m t hs hm

/-- The boundaries are the places behind which something is left. -/
theorem isBoundary_iff {s : Text} {n : Nat} : IsBoundary s n ↔ ∃ t, dropBytes? n s = some t := by
  constructor
  · rintro ⟨m, t, hs, hm⟩
    exact ⟨t, dropBytes?_eq_some_iff.2 ⟨m, hs, hm⟩⟩
  · rintro ⟨t, ht⟩
    obtain ⟨m, hs, hm⟩ := dropBytes?_eq_some_iff.1 ht
    exact ⟨m, t, hs, hm⟩

/-- Dropping a character and more is dropping the more from what follows it. -/
theorem dropBytes?_cons (c : Char) (s : Text) (n : Nat) : dropBytes? (c.utf8Size + n) (c :: s) = dropBytes? n s := by
  have hc : 0 < c.utf8Size := c.utf8Size_pos
  obtain ⟨k, hk⟩ : ∃ k, c.utf8Size + n = k + 1 := ⟨c.utf8Size + n - 1, by omega⟩
  have hrest : k + 1 - c.utf8Size = n := by omega
  rw [hk, dropBytes?, if_pos (by omega), hrest]

/-- Places behind a part are counted from its end. -/
theorem dropBytes?_append (p q : Text) (n : Nat) : dropBytes? (byteLength p + n) (p ++ q) = dropBytes? n q := by
  induction p with
  | nil => rw [byteLength_nil, Nat.zero_add, List.nil_append]
  | cons c p ih => rw [byteLength_cons, Nat.add_assoc, List.cons_append, dropBytes?_cons, ih]

/-- The part that stands behind `p` and in front of `q` is a slice. -/
theorem slice?_append (p t q : Text) :
    slice? (byteLength p) (byteLength p + byteLength t) (p ++ t ++ q) = some t := by
  rw [slice?, if_pos (Nat.le_add_right _ _), List.append_assoc, dropBytes?_eq, splitBytes?_append,
    Nat.add_sub_cancel_left]
  show (splitBytes? (byteLength t) (t ++ q)).map (·.1) = some t
  rw [splitBytes?_append]
  rfl

/-- The slice up to the end is what is left behind its first place. -/
theorem slice?_end (n : Nat) (s : Text) : slice? n (byteLength s) s = dropBytes? n s := by
  cases h : dropBytes? n s with
  | some t =>
    obtain ⟨m, rfl, rfl⟩ := dropBytes?_eq_some_iff.1 h
    have hslice := slice?_append m t []
    rwa [List.append_nil, ← byteLength_append] at hslice
  | none =>
    rw [slice?, h]
    split <;> rfl

/-! ## Many places -/

/-- The places come in order, from `m` on, and the text can be cut at each of them. -/
structure Boundaries (s : Text) (m : Nat) (ns : List Nat) : Prop where
  sorted : ns.Pairwise (· ≤ ·)
  le : ∀ n ∈ ns, m ≤ n
  boundary : ∀ n ∈ ns, IsBoundary s n

theorem Boundaries.nil (s : Text) (m : Nat) : Boundaries s m [] :=
  ⟨List.Pairwise.nil, fun _ h => absurd h List.not_mem_nil, fun _ h => absurd h List.not_mem_nil⟩

/-- A boundary in front of all others can be put in front of them. -/
theorem Boundaries.cons {s : Text} {m n : Nat} {ns : List Nat} (hm : IsBoundary s m) (hle : m ≤ n)
    (h : Boundaries s n ns) : Boundaries s m (m :: ns) where
  sorted := List.pairwise_cons.2 ⟨fun k hk => Nat.le_trans hle (h.le k hk), h.sorted⟩
  le := List.forall_mem_cons.2 ⟨Nat.le_refl m, fun k hk => Nat.le_trans hle (h.le k hk)⟩
  boundary := List.forall_mem_cons.2 ⟨hm, h.boundary⟩

end DocStub.Text

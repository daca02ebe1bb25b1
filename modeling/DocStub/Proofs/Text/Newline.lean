/-
  Texts without a newline.

  1. **White space** — a collapsed text has no blank but the space, whatever it was made from
     (`not_mem_collapse`).  So it has no newline.
  2. **Capitals** — no character but the newline becomes one in capital letters (`newline_not_mem_capitals`), so a
     normalized name has a newline only if the raw one had (`Identifier.newline_not_mem_normalize`).
  3. **Parts** — what is left of a line, some bytes on, is a part of it (`dropBytes?_suffix`).
-/
import DocStub.Identifier
import DocStub.Proofs.Text.Capital
import DocStub.Proofs.Text.Trim
import DocStub.Text.Bytes

namespace DocStub

namespace Text

/-! ## White space -/

/-- The space is the only blank that is written for a run of blanks. -/
theorem not_mem_squeeze {c : Char} (hc : isBlank c = true) (hspace : c ≠ ' ') (b : Bool) (s : Text) :
    c ∉ squeeze b s := by
  induction s generalizing b with
  | nil => exact List.not_mem_nil
  | cons d r ih =>
    rw [squeeze]
    split
    · split
      · exact ih true
      · exact List.not_mem_cons_of_ne_of_not_mem hspace (ih true)
    · next hd =>
      refine List.not_mem_cons_of_ne_of_not_mem ?_ (ih false)
      rintro rfl
      exact hd hc

/-- A collapsed text has no blank but the space. -/
theorem not_mem_collapse {c : Char} (hc : isBlank c = true) (hspace : c ≠ ' ') (s : Text) : c ∉ collapse s :=
  not_mem_squeeze hc hspace false (trim s)

theorem newline_not_mem_collapse (s : Text) : '\n' ∉ collapse s := not_mem_collapse (by decide) (by decide) s

/-! ## Capitals -/

/-- No character has a capital with a newline in it. -/
theorem newline_not_mem_capitals {c : Char} (h : c ≠ '\n') : '\n' ∉ capitals c :=
  not_mem_capitals (by decide +kernel) h

/-! ## Parts -/

/-- What is left behind some bytes is an end of the text. -/
theorem dropBytes?_suffix {n : Nat} {s t : Text} (h : dropBytes? n s = some t) : t <:+ s := by
  induction s generalizing n with
  | nil =>
    cases n with
    | zero => exact Option.some.inj h ▸ List.suffix_rfl
    | succ n => cases h
  | cons c r ih =>
    cases n with
    | zero => exact Option.some.inj h ▸ List.suffix_rfl
    | succ n =>
      rw [dropBytes?] at h
      split at h
      · exact (ih h).trans (List.suffix_cons c r)
      · cases h

end Text

/-! ## Names -/

/-- A name has a newline only if its raw form has one. -/
theorem Identifier.newline_not_mem_normalize {raw : Text} (h : '\n' ∉ raw) :
    '\n' ∉ (normalize raw).text := by
  have hword : '\n' ∉ word raw := fun hmem => h (List.mem_filter.1 hmem).1
  show '\n' ∉ if isReserved (word raw) then reserved ++ (word raw).drop 4 else capitalize (word raw)
  split
  · rw [List.mem_append, not_or]
    exact ⟨by decide, fun hmem => hword (List.mem_of_mem_drop hmem)⟩
  · cases hw : word raw with
    | nil => exact List.not_mem_nil
    | cons c r =>
      rw [hw] at hword
      obtain ⟨hc, hr⟩ := not_or.1 (mt List.mem_cons.2 hword)
      rw [capitalize, List.mem_append, not_or]
      exact ⟨Text.newline_not_mem_capitals (Ne.symm hc), hr⟩

end DocStub

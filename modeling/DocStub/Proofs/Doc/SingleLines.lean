/-
  Every text in the documentation of a function is a single line.

  1. **Records** — no line has a newline in it, so no text that comes from lines has one
     (`Parameter.ReadFrom.isSingle`, `Return.ReadFrom.isSingle`).  A callback joins many lines, but by spaces.
  2. **Functions** — the description falls back on the short one, so a function always has a description,
     and it is on single lines if the short one is (`FunctionDoc.isSingle_ofBlob`).
-/
import DocStub.Proofs.Doc.Records

namespace DocStub

open Text (IsContent)

namespace Text

/-- A trimmed line has no newline in it. -/
theorem newline_not_mem_trim_of_mem_lines {l s : Text} (h : l ∈ lines s) : '\n' ∉ trim l :=
  fun hmem => not_mem_of_mem_lines h (mem_of_mem_trim hmem)

end Text

/-! ## Records -/

namespace Parameter

/-- A parameter with a name, on single lines. -/
structure IsSingle (p : Parameter) : Prop where
  name : IsContent p.name
  type : '\n' ∉ p.type.text
  description : '\n' ∉ p.description

/-- A parameter that was read from lines is on single lines. -/
theorem ReadFrom.isSingle {s : Text} {p : Parameter} (h : p.ReadFrom (Text.lines s)) : p.IsSingle := by
  have havoids : p.Avoids '\n' :=
    h.avoids (by decide) (by decide) fun l hl => Text.newline_not_mem_trim_of_mem_lines hl
  obtain ⟨hne, l, -, hname⟩ := h.name
  have htrim : Text.trim p.name = p.name := by rw [hname, Text.trim_trim]
  exact ⟨⟨hne, htrim, havoids.name⟩, havoids.type, havoids.description⟩

end Parameter

namespace Return

/-- A return value on single lines. -/
structure IsSingle (r : Return) : Prop where
  type : '\n' ∉ r.type.text
  description : '\n' ∉ r.description

/-- A return value that was read from lines is on single lines. -/
theorem ReadFrom.isSingle {s : Text} {r : Return} (h : r.ReadFrom (Text.contentLines s)) : r.IsSingle := by
  have havoids : r.Avoids '\n' :=
    h.avoids (by decide) fun l hl => (Text.isContent_of_mem_contentLines hl).newline
  exact ⟨havoids.type, havoids.description⟩

end Return

/-! ## Functions -/

namespace FunctionDoc

/-- A function with a description, on single lines. -/
structure IsSingle (f : FunctionDoc) : Prop where
  name : '\n' ∉ f.name.text
  described : 1 ≤ f.long.length
  long : ∀ l ∈ f.long, '\n' ∉ l
  usage : ∀ l ∈ f.usage, '\n' ∉ l
  parameters : ∀ p ∈ f.parameters, p.IsSingle
  returns : ∀ r ∈ f.returns, r.IsSingle

/-- If the short description is on one line, so is everything that is written for the function. -/
theorem avoids_newline_ofBlob (name : Identifier) {short : Text} (hshort : '\n' ∉ short) (blob : Text) :
    (ofBlob name short blob).Avoids '\n' :=
  (readFrom_ofBlob name short blob).avoids (by decide) (by decide) hshort
    fun _ _ _ hl => Text.newline_not_mem_trim_of_mem_lines hl

theorem IsSingle.avoids {f : FunctionDoc} (h : f.IsSingle) : f.Avoids '\n' where
  long := h.long
  usage := h.usage
  parameters p hp := ⟨(h.parameters p hp).name.newline, (h.parameters p hp).type, (h.parameters p hp).description⟩
  returns r hr := ⟨(h.returns r hr).type, (h.returns r hr).description⟩

/-- Whatever the documentation text is, the record made of it is on single lines. -/
theorem isSingle_ofBlob {name : Identifier} {short : Text} (hname : '\n' ∉ name.text)
    (hshort : '\n' ∉ short) (blob : Text) : (ofBlob name short blob).IsSingle where
  name := hname
  described := by
    rcases (readFrom_ofBlob name short blob).long with hshort | ⟨hne, -⟩
    · rw [hshort]
      exact Nat.le_refl 1
    · exact List.length_pos_iff.2 hne
  long := (avoids_newline_ofBlob name hshort blob).long
  usage := (avoids_newline_ofBlob name hshort blob).usage
  parameters p hp := by
    obtain ⟨s, -, hread⟩ := (readFrom_ofBlob name short blob).parameters p hp
    exact hread.isSingle
  returns r hr := by
    obtain ⟨s, -, hread⟩ := (readFrom_ofBlob name short blob).returns r hr
    exact hread.isSingle

end FunctionDoc

end DocStub

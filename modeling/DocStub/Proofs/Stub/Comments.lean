/-
  What a script reads of a function outside its comments.

  1. **Two line ends** — a comment ends at a newline, but also at a carriage return (`scriptLines`).
  2. **Records** — the comment lines of a function hold no newline.  If no text of the function holds a
     carriage return either, a script reads exactly the lines that were written (`scriptLines_function`).
  3. **Documentation texts** — a short description is collapsed, so it holds no line end.  A documentation text
     is cut at its newlines only: a carriage return is lost at the ends of a line, and kept within.  Without
     one within a line nothing of the text leaves its comment (`comment_of_mem_scriptLines`); with one, what
     follows it does (`not_comment_of_carriage_return`).
-/
import DocStub.Proofs.Stub.Lines

namespace DocStub.Stub

/-! ## Two line ends -/

/-- The lines of a text as a script reads them: a line ends at a newline or a carriage return. -/
def scriptLines (s : Text) : List Text := (Text.splitAt '\n' s).flatMap (Text.splitAt '\r')

/-- Without a carriage return, the lines of a script are those that end in newlines. -/
theorem scriptLines_unlines {ls : List Text} (hn : ∀ l ∈ ls, '\n' ∉ l) (hr : ∀ l ∈ ls, '\r' ∉ l) :
    scriptLines (Text.unlines ls) = ls ++ [[]] := by
  have hself : ∀ l ∈ ls, Text.splitAt '\r' l = [l] := fun l hl => Text.splitAt_eq_singleton (hr l hl)
  rw [scriptLines, Text.splitAt_unlines hn, List.flatMap_append, List.flatMap_congr hself]
  simp [Text.splitAt]

/-! ## Records -/

/-- The line ends stand in no text of the function, so in none of its lines. -/
theorem scriptLines_function {owner : Identifier} {f : FunctionDoc} (hf : f.Avoids '\n') (hfr : f.Avoids '\r')
    (ho : '\n' ∉ owner.text ∧ '\r' ∉ owner.text) (hname : '\n' ∉ f.name.text ∧ '\r' ∉ f.name.text) :
    scriptLines (function owner f) = commentLines f ++ [declarationLine owner f.name, [], []] := by
  have hlines {c : Char} (h : ∀ l ∈ functionLines owner f, c ∉ l) : ∀ l ∈ functionLines owner f ++ [[]], c ∉ l :=
    List.forall_mem_append.2 ⟨h, by simp⟩
  have hn := hlines (not_mem_functionLines (by decide) (by decide) hf ho.1 hname.1)
  have hr := hlines (not_mem_functionLines (by decide) (by decide) hfr ho.2 hname.2)
  rw [function_eq, scriptLines_unlines hn hr, functionLines_eq_append]
  simp

/-! ## Documentation texts -/

/-- A documentation text without a carriage return within a line stays in comments, whatever it says. -/
theorem comment_of_mem_scriptLines {owner name : Identifier} {blob : Text}
    (ho : '\n' ∉ owner.text ∧ '\r' ∉ owner.text) (hn : '\n' ∉ name.text ∧ '\r' ∉ name.text) (raw : Text)
    (hblob : ∀ l ∈ Text.splitAt '\n' blob, '\r' ∉ Text.trim l) :
    ∀ l ∈ scriptLines (function owner (.ofBlob name (Text.collapse raw) blob)),
      l = [] ∨ comment <+: l ∨ l = declarationLine owner name := by
  have hshort : '\n' ∉ Text.collapse raw := Text.newline_not_mem_collapse raw
  have hread := FunctionDoc.readFrom_ofBlob name (Text.collapse raw) blob
  have hlf : (FunctionDoc.ofBlob name (Text.collapse raw) blob).Avoids '\n' :=
    FunctionDoc.avoids_newline_ofBlob name hshort blob
  -- the sections are parts of the text, so their lines are parts of its lines
  have hcr : (FunctionDoc.ofBlob name (Text.collapse raw) blob).Avoids '\r' := by
    refine hread.avoids (by decide) (by decide) (Text.not_mem_collapse (by decide) (by decide) raw) ?_
    intro part hpart l hl hmem
    obtain ⟨k, hk, hin⟩ := Text.exists_infix_trim_of_mem_lines hpart hl
    exact hblob k hk (hin.subset hmem)
  have hsingle : ∀ p ∈ (FunctionDoc.ofBlob name (Text.collapse raw) blob).parameters, p.IsSingle :=
    (FunctionDoc.isSingle_ofBlob hn.1 hshort blob).parameters
  intro l hl
  rw [scriptLines_function hlf hcr ho hn] at hl
  rcases List.mem_append.1 hl with hl | hl
  · exact Or.inr (Or.inl (comment_prefix_commentLines hsingle l hl))
  · rcases List.mem_cons.1 hl with rfl | hl
    · exact Or.inr (Or.inr rfl)
    · exact Or.inl (by simpa using hl)

/-- A documentation text whose lines end in carriage return and newline. -/
def sampleDocumentation : Text := "a\r\nUsage:\r\n f()\r\nParameters:\r\ncb\r\nfunc\r\n\r\nd\r\n".toList

theorem comment_of_mem_scriptLines_sample :
    ('\n' ∉ "A".toList ∧ '\r' ∉ "A".toList) ∧ ('\n' ∉ "F".toList ∧ '\r' ∉ "F".toList)
      ∧ (∀ l ∈ Text.splitAt '\n' sampleDocumentation, '\r' ∉ Text.trim l)
      ∧ ∀ l ∈ scriptLines (function ⟨"A".toList⟩
            (.ofBlob ⟨"F".toList⟩ (Text.collapse " s\r\nt".toList) sampleDocumentation)),
          l = [] ∨ comment <+: l ∨ l = declarationLine ⟨"A".toList⟩ ⟨"F".toList⟩ := by
  have ho : '\n' ∉ "A".toList ∧ '\r' ∉ "A".toList := by decide
  have hn : '\n' ∉ "F".toList ∧ '\r' ∉ "F".toList := by decide
  have hblob : ∀ l ∈ Text.splitAt '\n' sampleDocumentation, '\r' ∉ Text.trim l := by decide
  exact ⟨ho, hn, hblob, comment_of_mem_scriptLines ho hn _ hblob⟩

/-- A carriage return within a line ends the comment, and the script reads what follows. -/
theorem not_comment_of_carriage_return :
    ('\n' ∉ "Account".toList ∧ '\r' ∉ "Account".toList) ∧ ('\n' ∉ "F".toList ∧ '\r' ∉ "F".toList)
      ∧ Text.collapse "s".toList = "s".toList
      ∧ ¬ ∀ l ∈ scriptLines (function ⟨"Account".toList⟩ (.ofBlob ⟨"F".toList⟩ "s".toList "a\rb".toList)),
          l = [] ∨ comment <+: l ∨ l = declarationLine ⟨"Account".toList⟩ ⟨"F".toList⟩ := by
  refine ⟨by decide, by decide, by decide, fun h => ?_⟩
  have hmem : "b".toList ∈
      scriptLines (function ⟨"Account".toList⟩ (.ofBlob ⟨"F".toList⟩ "s".toList "a\rb".toList)) := by
    decide +kernel
  rcases h _ hmem with hempty | hcomment | hdeclaration
  · cases hempty
  · exact absurd hcomment (by decide)
  · cases hdeclaration

end DocStub.Stub

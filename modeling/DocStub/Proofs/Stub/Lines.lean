/-
  The lines that are written for a class and for a function.

  1. **Writing** — the text of a function is its lines and an empty one (`function_eq`); in front of its
     declaration all lines are comments (`commentLines`).
  2. **Line ends** — a blank other than the space stands in no line if it stands in no text of the function
     (`not_mem_functionLines`).  So no line has an end of its own.
  3. **Comments** — a line that ends without a description loses its blanks at the end, but never the word
     at its front: a parameter has a name, and a return value a `#`.  So every comment line begins with
     the comment mark (`comment_prefix_commentLines`).
-/
import DocStub.Proofs.Doc.SingleLines
import DocStub.Stub

namespace DocStub.Stub

/-! ## Writing -/

/-- The stub of a function is its lines, with a blank line behind them. -/
theorem function_eq (owner : Identifier) (f : FunctionDoc) :
    function owner f = Text.unlines (functionLines owner f ++ [[]]) := by
  have hne : functionLines owner f ≠ [] := by simp [functionLines]
  rw [Text.unlines_append, ← Text.joinWith_newline hne, function, List.append_assoc]
  rfl

/-- The lines in front of the declaration of a function. -/
def commentLines (f : FunctionDoc) : List Text :=
  f.long.map (comment ++ ·) ++ usageLines f.usage ++ f.parameters.map parameterLine
    ++ f.returns.map returnLine

/-- A type with the space behind it, if there is one. -/
def typePart (t : TypeTag) : Text := if t.isEmpty then [] else t.text ++ [' ']

/-- The comments come first, and the declaration is the last line. -/
theorem functionLines_eq_append (owner : Identifier) (f : FunctionDoc) :
    functionLines owner f = commentLines f ++ [declarationLine owner f.name] := rfl

/-! ## Line ends -/

section

variable {c : Char}

/-- A text of solid characters and spaces has no other blank. -/
theorem not_mem_of_plain (hc : isBlank c = true) (hspace : c ≠ ' ') {t : Text}
    (ht : t.all (fun x => !isBlank x || x == ' ') = true) : c ∉ t := by
  intro hmem
  have hplain := List.all_eq_true.1 ht c hmem
  simp [hc, hspace] at hplain

theorem not_mem_append {a b : Text} (ha : c ∉ a) (hb : c ∉ b) : c ∉ a ++ b :=
  fun h => (List.mem_append.1 h).elim ha hb

/-- Taking the dangling blank off brings nothing in. -/
theorem not_mem_withoutDanglingBlank {l d : Text} (h : c ∉ l) : c ∉ withoutDanglingBlank l d := by
  rw [withoutDanglingBlank]
  split
  · exact fun hmem => h ((Text.trimEnd_prefix_self l).subset hmem)
  · exact h

/-- The written type has the characters of the type, and spaces. -/
theorem not_mem_typePart (hspace : c ≠ ' ') {t : TypeTag} (h : c ∉ t.text) : c ∉ typePart t := by
  rw [typePart]
  split
  · exact List.not_mem_nil
  · exact not_mem_append h (by simpa using hspace)

variable (hc : isBlank c = true) (hspace : c ≠ ' ')
include hc hspace

/-- A character that is in no text of a parameter is not in its line, if the stub does not use it itself. -/
theorem not_mem_parameterLine {p : Parameter} (h : p.Avoids c) : c ∉ parameterLine p := by
  refine not_mem_withoutDanglingBlank ?_
  refine not_mem_append (not_mem_append ?_ (not_mem_typePart hspace h.type)) h.description
  refine not_mem_append (not_mem_append ?_ h.name) (by simpa using hspace)
  exact not_mem_of_plain hc hspace (by decide)

theorem not_mem_returnLine {r : Return} (h : r.Avoids c) : c ∉ returnLine r := by
  refine not_mem_withoutDanglingBlank ?_
  refine not_mem_append (not_mem_append ?_ (not_mem_of_plain hc hspace (by decide))) h.description
  exact not_mem_append (not_mem_of_plain hc hspace (by decide)) (not_mem_typePart hspace h.type)

theorem not_mem_usageLines {usage : List Text} (h : ∀ u ∈ usage, c ∉ u) : ∀ l ∈ usageLines usage, c ∉ l := by
  have hmark : c ∉ comment ++ "    ".toList := not_mem_of_plain hc hspace (by decide)
  rw [usageLines]
  split
  · exact fun l hl => nomatch hl
  · simp only [List.forall_mem_append, List.forall_mem_map, List.forall_mem_cons]
    refine ⟨⟨⟨?_, ?_, ?_, fun _ h => nomatch h⟩, fun u hu => not_mem_append hmark (h u hu)⟩, ?_, fun _ h => nomatch h⟩
    all_goals exact not_mem_of_plain hc hspace (by decide)

/-- What stands in no text of a function stands in no comment line of it. -/
theorem not_mem_commentLines {f : FunctionDoc} (h : f.Avoids c) : ∀ l ∈ commentLines f, c ∉ l := by
  have hcomment : c ∉ comment := not_mem_of_plain hc hspace (by decide)
  simp only [commentLines, List.forall_mem_append, List.forall_mem_map]
  refine ⟨⟨⟨fun l hl => ?_, not_mem_usageLines hc hspace h.usage⟩, fun p hp => ?_⟩, fun r hr => ?_⟩
  · exact not_mem_append hcomment (h.long l hl)
  · exact not_mem_parameterLine hc hspace (h.parameters p hp)
  · exact not_mem_returnLine hc hspace (h.returns r hr)

theorem not_mem_declarationLine {owner name : Identifier} (ho : c ∉ owner.text) (hn : c ∉ name.text) :
    c ∉ declarationLine owner name := by
  refine not_mem_append (not_mem_append ?_ hn) (not_mem_of_plain hc hspace (by decide))
  refine not_mem_append (not_mem_append ?_ ho) (not_mem_of_plain hc hspace (by decide))
  exact not_mem_of_plain hc hspace (by decide)

/-- A character that is in no text of the function is in no line of its stub, if the stub does not use it itself. -/
theorem not_mem_functionLines {owner : Identifier} {f : FunctionDoc} (h : f.Avoids c) (ho : c ∉ owner.text)
    (hn : c ∉ f.name.text) : ∀ l ∈ functionLines owner f, c ∉ l := by
  have hdeclaration := not_mem_declarationLine hc hspace ho hn
  rw [functionLines_eq_append, List.forall_mem_append]
  exact ⟨not_mem_commentLines hc hspace h, by simpa using hdeclaration⟩

end

/-! ## Comments -/

/-- What stands in front of a solid character is never trimmed from the end. -/
theorem prefix_withoutDanglingBlank {a b d : Text} (h : ∃ c ∈ b, isBlank c = false) :
    a <+: withoutDanglingBlank (a ++ b) d := by
  rw [withoutDanglingBlank]
  split
  · rw [Text.trimEnd_append h]
    exact List.prefix_append a _
  · exact List.prefix_append a b

/-- The line of a parameter keeps its keyword: the name behind it is not blank. -/
theorem prefix_parameterLine {p : Parameter} (h : Text.IsContent p.name) :
    "---@param ".toList <+: parameterLine p := by
  -- trimming stops at the name, for it begins with a solid character
  obtain ⟨c, r, hcr⟩ := List.exists_cons_of_ne_nil h.ne_nil
  have hc : isBlank c = false := (Text.trim_eq_self_iff.1 h.trimmed).1 c (by rw [hcr]; rfl)
  rw [parameterLine]
  simp only [List.append_assoc]
  rw [← List.append_assoc comment]
  exact prefix_withoutDanglingBlank ⟨c, List.mem_append_left _ (by rw [hcr]; exact List.mem_cons_self), hc⟩

/-- The line of a return value keeps its keyword: something solid stands behind it. -/
theorem prefix_returnLine (r : Return) : "---@return ".toList <+: returnLine r := by
  rw [returnLine]
  simp only [List.append_assoc]
  rw [← List.append_assoc comment]
  exact prefix_withoutDanglingBlank ⟨'#', by simp, by decide⟩

/-- The usage is written in comments. -/
theorem comment_prefix_usageLines (usage : List Text) : ∀ l ∈ usageLines usage, comment <+: l := by
  rw [usageLines]
  split
  · exact fun l hl => nomatch hl
  · simp only [List.forall_mem_append, List.forall_mem_map, List.forall_mem_cons]
    refine ⟨⟨⟨List.prefix_rfl, ?_, ?_, fun _ h => nomatch h⟩, fun u _ => ?_⟩, ?_, fun _ h => nomatch h⟩
    · exact List.prefix_append ..
    · exact List.prefix_append ..
    · rw [List.append_assoc]
      exact List.prefix_append ..
    · exact List.prefix_append ..

/-- Everything in front of the declaration is written in comments. -/
theorem comment_prefix_commentLines {f : FunctionDoc} (h : ∀ p ∈ f.parameters, p.IsSingle) :
    ∀ l ∈ commentLines f, comment <+: l := by
  simp only [commentLines, List.forall_mem_append, List.forall_mem_map]
  refine ⟨⟨⟨fun l _ => List.prefix_append .., comment_prefix_usageLines f.usage⟩, fun p hp => ?_⟩, fun r _ => ?_⟩
  · exact (List.prefix_append comment "@param ".toList).trans (prefix_parameterLine (h p hp).name)
  · exact (List.prefix_append comment "@return ".toList).trans (prefix_returnLine r)

end DocStub.Stub

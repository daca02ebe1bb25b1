/-
  Where the lines of a function end.

  1. **Descriptions** — a description is empty, or a line of content, and only a callback takes the lines behind its
     type as they are (`Parameter.Chunks.takesRest_or_trimmed`).  So a description ends in a blank exactly where
     a callback stands in a section whose last line is blank (`Parameter.trimEnd_description_ne_iff`).
  2. **Records** — the line of a record ends as its description does, and without a description it is trimmed
     (`trimEnd_withoutDanglingBlank_iff`).
  3. **Functions** — all other lines end in a trimmed text or in a mark.  So the lines that end in a blank are those
     of such callbacks (`trimEnd_ne_self_iff_callback`).  One blank line is enough: the description is a space
     then, and not empty (`trimEnd_ne_self_of_blank_line`).
-/
import DocStub.Proofs.Doc.Chunks
import DocStub.Proofs.Stub.Lines

namespace DocStub

open Text (IsContent trimEnd)

namespace Text

theorem IsContent.trimEnd {l : Text} (h : IsContent l) : trimEnd l = l :=
  trimEnd_eq_self_iff.2 (trim_eq_self_iff.1 h.trimmed).2

/-- The last line of the text says nothing. -/
def EndsInBlankLine (s : Text) : Prop := ∃ l, (lines s).getLast? = some l ∧ trim l = []

end Text

open Text (EndsInBlankLine)

/-! ## Descriptions -/

namespace Parameter

/-- The parameter is a callback, and described by the lines behind its type. -/
def TakesRest (raw : List Text) (p : Parameter) : Prop :=
  p.type = .function ∧ ∃ front type back, raw = front ++ type :: back ∧ Text.trim type ≠ []
    ∧ p.description = absorb back

/-- A description is a line of content or nothing, unless the parameter is a callback and takes the rest. -/
theorem Chunks.takesRest_or_trimmed {raw : List Text} {ps : List Parameter} {cs : List (List Text)}
    (h : Chunks raw ps cs) (hcs : ∀ l ∈ cs.flatten, IsContent l) :
    ∀ p ∈ ps, p.TakesRest raw ∨ p.type ≠ .function ∧ trimEnd p.description = p.description := by
  -- by the chunks: all but the last rule take a line of content for the description, or none
  induction h with
  | nil => exact fun p hp => nomatch hp
  | @untyped name description _ _ _ _ ih =>
    simp only [List.flatten_cons, List.forall_mem_append, List.forall_mem_cons] at hcs
    obtain ⟨⟨-, hdescription, -⟩, hrest⟩ := hcs
    exact List.forall_mem_cons.2 ⟨Or.inr ⟨TypeTag.noConfusion, hdescription.trimEnd⟩, ih hrest⟩
  | @typed name word description _ _ _ _ _ htype _ ih =>
    simp only [List.flatten_cons, List.forall_mem_append, List.forall_mem_cons] at hcs
    obtain ⟨⟨-, -, hdescription, -⟩, hrest⟩ := hcs
    exact List.forall_mem_cons.2 ⟨Or.inr ⟨htype, hdescription.trimEnd⟩, ih hrest⟩
  | nameOnly => exact List.forall_mem_singleton.2 (Or.inr ⟨TypeTag.noConfusion, rfl⟩)
  | undescribed _ _ htype => exact List.forall_mem_singleton.2 (Or.inr ⟨htype, rfl⟩)
  | @callback _ word line _ front back htoken _ hraw hline =>
    have hne : Text.trim line ≠ [] := by
      rw [hline]
      exact htoken.ne_nil
    exact List.forall_mem_singleton.2 (Or.inl ⟨rfl, front, line, back, hraw, hne, rfl⟩)

/-- What a callback takes ends in a blank if the last line of it says nothing. -/
theorem trimEnd_absorb_concat_iff (ks : List Text) (k : Text) :
    trimEnd (absorb (ks ++ [k])) = absorb (ks ++ [k]) ↔ Text.trim k ≠ [] := by
  have habsorb : absorb (ks ++ [k]) = absorb ks ++ ([' '] ++ Text.trim k) := by simp [absorb]
  have hspace : [' '] ++ Text.trim k ≠ [] := List.cons_ne_nil ' ' _
  rw [habsorb, Text.trimEnd_append_eq_self_iff hspace]
  by_cases hblank : Text.trim k = []
  · rw [hblank]
    decide
  · rw [Text.trimEnd_append_eq_self_iff hblank]
    exact ⟨fun _ => hblank, fun _ => Text.trimEnd_trimEnd _⟩

/-- The description of a callback ends in a blank if the last line of its section is blank. -/
theorem TakesRest.trimEnd_iff {s : Text} {p : Parameter} (h : p.TakesRest (Text.lines s)) :
    trimEnd p.description = p.description ↔ ¬ EndsInBlankLine s := by
  obtain ⟨-, front, type, back, hraw, htype, hdescription⟩ := h
  rw [hdescription, EndsInBlankLine, hraw]
  rcases List.eq_nil_or_concat back with rfl | ⟨back, k, rfl⟩
  · -- the type is the last line
    have htrimmed : trimEnd (absorb []) = absorb [] := rfl
    simp [htrimmed, htype]
  · have hlast : (front ++ type :: (back ++ [k])).getLast? = some k := by
      rw [← List.cons_append, ← List.append_assoc, List.getLast?_concat]
    rw [List.concat_eq_append, trimEnd_absorb_concat_iff, hlast]
    simp

/-- In a section that ends in a blank line, the callback has a blank at the end, and no other parameter. -/
theorem trimEnd_description_ne_iff {s : Text} {p : Parameter} (hp : p ∈ ofSection s) :
    trimEnd p.description ≠ p.description ↔ p.type = .function ∧ EndsInBlankLine s := by
  obtain ⟨cs, hcs⟩ := exists_isCut s
  have hcontent : ∀ l ∈ cs.flatten, IsContent l := by
    rw [hcs.flatten]
    exact fun l hl => Text.isContent_of_mem_contentLines hl
  rcases hcs.chunks.takesRest_or_trimmed hcontent p hp with hrest | ⟨htype, htrimmed⟩
  · rw [ne_eq, hrest.trimEnd_iff, not_not]
    exact ⟨fun hblank => ⟨hrest.1, hblank⟩, fun h => h.2⟩
  · exact ⟨fun hne => absurd htrimmed hne, fun h => absurd h.1 htype⟩

end Parameter

/-- The description of a return value is a line of content or nothing. -/
theorem Return.trimEnd_description {s : Text} {r : Return} (hr : r ∈ Return.ofSection s) :
    trimEnd r.description = r.description := by
  rcases (Return.readFrom_of_mem_ofSection r hr).description with hnone | hline
  · rw [hnone]
    rfl
  · exact (Text.isContent_of_mem_contentLines hline).trimEnd

namespace FunctionDoc

/-- No text of the function ends in a blank, but for the descriptions of its parameters. -/
structure IsTrimmed (f : FunctionDoc) : Prop where
  long : ∀ l ∈ f.long, trimEnd l = l
  usage : ∀ l ∈ f.usage, IsContent l
  returns : ∀ r ∈ f.returns, trimEnd r.description = r.description

/-- All texts but the descriptions of parameters come from lines of content, or from the short description. -/
theorem isTrimmed_ofBlob (name : Identifier) {short : Text} (hshort : trimEnd short = short) (blob : Text) :
    (ofBlob name short blob).IsTrimmed where
  long := by
    rcases (readFrom_ofBlob name short blob).long with hlong | ⟨-, s, -, hlong⟩
    · rw [hlong]
      exact List.forall_mem_singleton.2 hshort
    · rw [hlong]
      exact fun l hl => (Text.isContent_of_mem_contentLines hl).trimEnd
  usage := by
    rcases (readFrom_ofBlob name short blob).usage with husage | ⟨s, -, husage⟩
    · rw [husage]
      exact fun l hl => nomatch hl
    · rw [husage]
      exact fun l hl => Text.isContent_of_mem_contentLines hl
  returns r hr := by
    obtain ⟨s, -, hmem⟩ := mem_returns_ofBlob.1 hr
    exact Return.trimEnd_description hmem

end FunctionDoc

namespace Stub

/-! ## Records -/

theorem trimEnd_withoutDanglingBlank_iff (front description : Text) :
    let line := withoutDanglingBlank (front ++ description) description
    trimEnd line = line ↔ trimEnd description = description := by
  intro line
  by_cases hnone : description = []
  · have hline : line = trimEnd front := by simp [line, withoutDanglingBlank, hnone]
    rw [hline, Text.trimEnd_trimEnd, hnone]
    exact ⟨fun _ => rfl, fun _ => rfl⟩
  · have hline : line = front ++ description := by simp [line, withoutDanglingBlank, hnone]
    rw [hline, Text.trimEnd_append_eq_self_iff hnone]

/-- The line of a parameter ends in a blank exactly if its description does. -/
theorem trimEnd_parameterLine_iff (p : Parameter) :
    trimEnd (parameterLine p) = parameterLine p ↔ trimEnd p.description = p.description :=
  trimEnd_withoutDanglingBlank_iff _ _

/-- The line of a return value ends in a blank exactly if its description does. -/
theorem trimEnd_returnLine_iff (r : Return) :
    trimEnd (returnLine r) = returnLine r ↔ trimEnd r.description = r.description :=
  trimEnd_withoutDanglingBlank_iff _ _

/-! ## Functions -/

/-- The usage is written from lines of content, so no line of it ends in a blank. -/
theorem trimEnd_usageLines {usage : List Text} (h : ∀ u ∈ usage, IsContent u) :
    ∀ l ∈ usageLines usage, trimEnd l = l := by
  rw [usageLines]
  split
  · exact List.forall_mem_nil _
  · simp only [List.forall_mem_append, List.forall_mem_map, List.forall_mem_cons]
    refine ⟨⟨⟨by decide, by decide, by decide, List.forall_mem_nil _⟩, fun u hu => ?_⟩, by decide, List.forall_mem_nil _⟩
    exact (Text.trimEnd_append_eq_self_iff (h u hu).ne_nil).2 (h u hu).trimEnd

theorem trimEnd_declarationLine (owner name : Identifier) :
    trimEnd (declarationLine owner name) = declarationLine owner name :=
  (Text.trimEnd_append_eq_self_iff (by decide)).2 (by decide)

/-- Only the line of a parameter can end in a blank, and does so if the description of the parameter does. -/
theorem mem_functionLines_trimEnd_ne_iff (owner : Identifier) {f : FunctionDoc} (hf : f.IsTrimmed) (l : Text) :
    l ∈ functionLines owner f ∧ trimEnd l ≠ l
      ↔ ∃ p ∈ f.parameters, trimEnd p.description ≠ p.description ∧ l = parameterLine p := by
  constructor
  · rintro ⟨hl, hne⟩
    simp only [functionLines, List.mem_append, List.mem_map, List.mem_singleton] at hl
    -- the description, the usage, the parameters, the return values, and the declaration
    rcases hl with (((⟨t, ht, rfl⟩ | hl) | ⟨p, hp, rfl⟩) | ⟨r, hr, rfl⟩) | rfl
    · exact absurd (Text.trimEnd_append_eq_self (by decide) (hf.long t ht)) hne
    · exact absurd (trimEnd_usageLines hf.usage l hl) hne
    · exact ⟨p, hp, fun h => hne ((trimEnd_parameterLine_iff p).2 h), rfl⟩
    · exact absurd ((trimEnd_returnLine_iff r).2 (hf.returns r hr)) hne
    · exact absurd (trimEnd_declarationLine owner f.name) hne
  · rintro ⟨p, hp, hne, rfl⟩
    refine ⟨?_, fun h => hne ((trimEnd_parameterLine_iff p).1 h)⟩
    simp only [functionLines, List.mem_append, List.mem_map]
    exact Or.inl (Or.inl (Or.inr ⟨p, hp, rfl⟩))

/-- Where no text has a newline, the stub of a function is cut into the lines that were written. -/
theorem splitAt_function {owner : Identifier} {f : FunctionDoc} (hf : f.Avoids '\n') (ho : '\n' ∉ owner.text)
    (hn : '\n' ∉ f.name.text) : Text.splitAt '\n' (function owner f) = functionLines owner f ++ [[], []] := by
  have hlines : ∀ l ∈ functionLines owner f ++ [[]], '\n' ∉ l :=
    List.forall_mem_append.2 ⟨not_mem_functionLines (by decide) (by decide) hf ho hn, by simp⟩
  rw [function_eq, Text.splitAt_unlines hlines, List.append_assoc]
  rfl

/-- **Which lines of a function end in a blank.**  They are the lines of the callbacks in a section whose last line is
    blank: the description of such a callback ends in a blank, and it is not empty.  Every other line of a function, for
    all documentation texts, is trimmed at its end, those of records without a description included. -/
theorem trimEnd_ne_self_iff_callback {owner name : Identifier} (ho : '\n' ∉ owner.text) (hn : '\n' ∉ name.text)
    (raw blob l : Text) :
    l ∈ Text.splitAt '\n' (function owner (.ofBlob name (Text.collapse raw) blob)) ∧ trimEnd l ≠ l
      ↔ ∃ s, (Sections.split blob).parameters = some s ∧ EndsInBlankLine s
          ∧ ∃ p ∈ Parameter.ofSection s, p.type = .function ∧ l = parameterLine p := by
  have hlf : (FunctionDoc.ofBlob name (Text.collapse raw) blob).Avoids '\n' :=
    FunctionDoc.avoids_newline_ofBlob name (Text.newline_not_mem_collapse raw) blob
  have htrimmed : (FunctionDoc.ofBlob name (Text.collapse raw) blob).IsTrimmed :=
    FunctionDoc.isTrimmed_ofBlob name (Text.trimEnd_collapse raw) blob
  have hlines := mem_functionLines_trimEnd_ne_iff owner htrimmed l
  rw [splitAt_function hlf ho hn, List.mem_append]
  constructor
  · rintro ⟨hl, hne⟩
    have hl : l ∈ functionLines owner (.ofBlob name (Text.collapse raw) blob) := by
      -- the two empty lines behind the function have no blanks
      refine hl.resolve_right fun hempty => hne ?_
      obtain rfl : l = [] := by simpa using hempty
      rfl
    obtain ⟨p, hp, hdescription, hline⟩ := hlines.1 ⟨hl, hne⟩
    obtain ⟨s, hs, hmem⟩ := FunctionDoc.mem_parameters_ofBlob.1 hp
    obtain ⟨htype, hblank⟩ := (Parameter.trimEnd_description_ne_iff hmem).1 hdescription
    exact ⟨s, hs, hblank, p, hmem, htype, hline⟩
  · rintro ⟨s, hs, hblank, p, hmem, htype, hline⟩
    have hp : p ∈ (FunctionDoc.ofBlob name (Text.collapse raw) blob).parameters :=
      FunctionDoc.mem_parameters_ofBlob.2 ⟨s, hs, hmem⟩
    have hdescription := (Parameter.trimEnd_description_ne_iff hmem).2 ⟨htype, hblank⟩
    obtain ⟨hl, hne⟩ := hlines.2 ⟨p, hp, hdescription, hline⟩
    exact ⟨Or.inl hl, hne⟩

/-- A callback with a blank line behind it, and a return value without a description. -/
def sampleCallback : Text := "Peeks.\nReturns:\nint\nParameters:\ncb\nfunc\n\n".toList

theorem trimEnd_ne_self_iff_callback_sample :
    '\n' ∉ "Box".toList ∧ '\n' ∉ "Peek".toList
      ∧ ∀ l, l ∈ Text.splitAt '\n' (function ⟨"Box".toList⟩
              (.ofBlob ⟨"Peek".toList⟩ (Text.collapse "Peeks.".toList) sampleCallback))
            ∧ trimEnd l ≠ l
          ↔ l = "---@param cb function  ".toList := by
  have ho : '\n' ∉ "Box".toList := by decide
  have hn : '\n' ∉ "Peek".toList := by decide
  have hsection : (Sections.split sampleCallback).parameters = some "\ncb\nfunc\n\n".toList := by decide +kernel
  have hparameters : Parameter.ofSection "\ncb\nfunc\n\n".toList = [⟨"cb".toList, .function, [' ']⟩] := by decide
  have hblank : EndsInBlankLine "\ncb\nfunc\n\n".toList := ⟨[], by decide, by decide⟩
  refine ⟨ho, hn, fun l => (trimEnd_ne_self_iff_callback ho hn "Peeks.".toList sampleCallback l).trans ?_⟩
  constructor
  · rintro ⟨s, hs, -, p, hp, -, hline⟩
    obtain rfl := Option.some.inj (hsection.symm.trans hs)
    rw [hparameters, List.mem_singleton] at hp
    rw [hline, hp]
    decide
  · rintro rfl
    exact ⟨_, hsection, hblank, _, by rw [hparameters]; exact List.mem_singleton_self _, rfl, by decide⟩

/-- A callback that only a blank line follows has a space for a description, and its line ends in two blanks. -/
theorem trimEnd_ne_self_of_blank_line :
    '\n' ∉ "Box".toList ∧ '\n' ∉ "Peek".toList ∧ Text.collapse "Peeks.".toList = "Peeks.".toList
      ∧ ¬ ∀ l ∈ Text.splitAt '\n' (function ⟨"Box".toList⟩
              (.ofBlob ⟨"Peek".toList⟩ "Peeks.".toList "Peeks.\nParameters:\ncb\nfunc\n\n".toList)),
          trimEnd l = l := by
  refine ⟨by decide, by decide, by decide, fun h => ?_⟩
  have hmem : "---@param cb function  ".toList ∈ Text.splitAt '\n' (function ⟨"Box".toList⟩
      (.ofBlob ⟨"Peek".toList⟩ "Peeks.".toList "Peeks.\nParameters:\ncb\nfunc\n\n".toList)) := by
    decide +kernel
  exact absurd (h _ hmem) (by decide)

end Stub

end DocStub

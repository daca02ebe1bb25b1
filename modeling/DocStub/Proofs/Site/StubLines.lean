/-
  The lines of a stub.

  1. **The grammar** — `Stub.headerLines` and `Stub.IsBlock` say what the lines of a stub are: six lines for
     the class, and a block of lines for every function.
  2. **Writing** — the text of a class is the lines of its header and of its functions, each with an end
     (`Stub.ofClass_eq`), and the lines of a function are a block (`Stub.isBlock_functionLines`).
     So a text that was made of single lines is cut into these lines again (`Stub.splitAt_ofClass`).
  3. **Reading** — every name and summary of an index and every text of a class page is on a single line
     (`Index.newline_not_mem`, `ClassPage.isSingle_of_mem`).  Nothing is used of the reading of pages but that it
     gives documents: this holds of all of them (`GroupStub.splitAt_ofDocuments`), and so of those that pages are
     read as (`GroupStub.splitAt_ofGroup`).
-/
import DocStub.Proofs.Site.Grouping
import DocStub.Proofs.Stub.Lines

namespace DocStub

namespace Stub

/-! ## The grammar -/

/-- The lines for a class. -/
def headerLines (h : ClassHeader) : List Text :=
  ["---@meta ".toList ++ h.name.text, "---".toList, "---".toList ++ h.summary,
    "---@class ".toList ++ h.name.text, h.name.text ++ " = \x7b\x7d".toList, []]

/-- The lines for the usage of a function. -/
def usageBlock : List Text → List Text
  | [] => []
  | u :: us =>
    ["---".toList, "---Usage:".toList, "---```".toList]
      ++ (u :: us).map ("---    ".toList ++ ·) ++ ["---```".toList]

/-- The lines for a function of the class `owner`. -/
structure IsBlock (owner : Identifier) (f : FunctionDoc) (ls : List Text) : Prop where
  described : 1 ≤ f.long.length
  lines : ∃ ps rs : List Text,
    ls = f.long.map ("---".toList ++ ·) ++ usageBlock f.usage ++ ps ++ rs
        ++ ["function ".toList ++ owner.text ++ ['.'] ++ f.name.text ++ " end".toList, []]
      ∧ ps.length = f.parameters.length ∧ (∀ l ∈ ps, "---@param ".toList <+: l)
      ∧ rs.length = f.returns.length ∧ ∀ l ∈ rs, "---@return ".toList <+: l

/-! ## Writing -/

theorem header_eq (h : ClassHeader) : header h = Text.unlines (headerLines h) := by
  simp [header, headerLines, line, comment]

theorem functions_eq (owner : Identifier) (fs : List FunctionDoc) :
    functions owner fs = Text.unlines (fs.flatMap fun f => functionLines owner f ++ [[]]) := by
  induction fs with
  | nil => rfl
  | cons f fs ih =>
    rw [List.flatMap_cons, Text.unlines_append, ← ih, ← function_eq]
    rfl

/-- A stub is the lines of its header, and those of its functions with a blank line behind each. -/
theorem ofClass_eq (h : ClassHeader) (fs : List FunctionDoc) :
    ofClass h fs =
      Text.unlines (headerLines h ++ fs.flatMap fun f => functionLines h.name f ++ [[]]) := by
  rw [ofClass, header_eq, functions_eq, Text.unlines_append]

/-! ## Lines of a function -/

theorem usageLines_eq (usage : List Text) : usageLines usage = usageBlock usage := by
  cases usage <;> rfl

/-- The lines of a function, one kind after the other. -/
theorem functionLines_eq (owner : Identifier) (f : FunctionDoc) :
    functionLines owner f ++ [[]] =
      f.long.map ("---".toList ++ ·) ++ usageBlock f.usage ++ f.parameters.map parameterLine
        ++ f.returns.map returnLine
        ++ ["function ".toList ++ owner.text ++ ['.'] ++ f.name.text ++ " end".toList, []] := by
  have hlast : [declarationLine owner f.name] ++ [[]] =
      ["function ".toList ++ owner.text ++ ['.'] ++ f.name.text ++ " end".toList, []] := rfl
  rw [functionLines, usageLines_eq, List.append_assoc, hlast, comment]

/-- A function on single lines is written as a block. -/
theorem isBlock_functionLines (owner : Identifier) {f : FunctionDoc} (h : f.IsSingle) :
    IsBlock owner f (functionLines owner f ++ [[]]) := by
  have hparameters : ∀ l ∈ f.parameters.map parameterLine, "---@param ".toList <+: l := by
    intro l hl
    obtain ⟨p, hp, rfl⟩ := List.mem_map.1 hl
    exact prefix_parameterLine (h.parameters p hp).name
  have hreturns : ∀ l ∈ f.returns.map returnLine, "---@return ".toList <+: l := by
    intro l hl
    obtain ⟨r, -, rfl⟩ := List.mem_map.1 hl
    exact prefix_returnLine r
  exact ⟨h.described, _, _, functionLines_eq owner f, List.length_map .., hparameters,
    List.length_map .., hreturns⟩

/-- If the name and the summary are single lines, so are the lines of the header. -/
theorem newline_not_mem_headerLines {h : ClassHeader} (hn : '\n' ∉ h.name.text) (hs : '\n' ∉ h.summary) :
    ∀ l ∈ headerLines h, '\n' ∉ l := by
  simp only [headerLines, List.forall_mem_cons]
  exact ⟨not_mem_append (by decide) hn, by decide, not_mem_append (by decide) hs,
    not_mem_append (by decide) hn, not_mem_append hn (by decide), List.not_mem_nil,
    fun _ h => nomatch h⟩

/-- The text of a class is cut into the lines of its header and a block for every function, if all that it
    is made of is on single lines. -/
theorem splitAt_ofClass {h : ClassHeader} (hn : '\n' ∉ h.name.text) (hs : '\n' ∉ h.summary)
    {fs : List FunctionDoc} (hfs : ∀ f ∈ fs, f.IsSingle) :
    (ofClass h fs).getLast? = some '\n' ∧
      ∃ blocks : List (List Text), List.Forall₂ (IsBlock h.name) fs blocks ∧
        Text.splitAt '\n' (ofClass h fs) = headerLines h ++ blocks.flatten ++ [[]] := by
  -- the blocks are the lines of the functions; nothing in them reaches into another line
  let blocks := fs.map fun f => functionLines h.name f ++ [[]]
  have htext : ofClass h fs = Text.unlines (headerLines h ++ blocks.flatten) := by
    rw [ofClass_eq, List.flatMap_def]
  have hlines : ∀ l ∈ headerLines h ++ blocks.flatten, '\n' ∉ l := by
    intro l hl
    rcases List.mem_append.1 hl with hl | hl
    · exact newline_not_mem_headerLines hn hs l hl
    · obtain ⟨b, hb, hl⟩ := List.mem_flatten.1 hl
      obtain ⟨f, hf, rfl⟩ := List.mem_map.1 hb
      rcases List.mem_append.1 hl with hl | hl
      · exact not_mem_functionLines (by decide) (by decide) (hfs f hf).avoids hn (hfs f hf).name l hl
      · rw [List.mem_singleton.1 hl]
        exact List.not_mem_nil
  refine ⟨?_, blocks, ?_, ?_⟩
  · rw [htext]
    exact Text.getLast?_unlines (by simp [headerLines])
  · refine List.forall₂_map_right_iff.2 (List.forall₂_same.2 fun f hf => ?_)
    exact isBlock_functionLines _ (hfs f hf)
  · rw [htext, Text.splitAt_unlines hlines]

end Stub

/-! ## Reading -/

/-- The first line of a selection was collapsed, whatever is selected. -/
theorem Page.newline_not_mem_firstLine (s : Markup.Selector) (p : Markup.Place) :
    '\n' ∉ firstLine s p := by
  rw [firstLine]
  cases (s.below p).head? with
  | none => exact List.not_mem_nil
  | some q => exact Text.newline_not_mem_collapse q.text

/-- The names and summaries of an index are on single lines, in any document. -/
theorem Index.newline_not_mem {document : Markup.Document} {e : ClassEntry} (h : e ∈ Index.entriesIn document) :
    '\n' ∉ e.name.text ∧ '\n' ∉ e.summary := by
  rw [entriesIn] at h
  split at h
  · cases h
  · obtain ⟨row, -, hrow⟩ := List.mem_filterMap.1 h
    rw [entryOf?] at hrow
    split at hrow
    · cases hrow
    · obtain ⟨url, -, rfl⟩ := Option.map_eq_some_iff.1 hrow
      exact ⟨Identifier.newline_not_mem_normalize (Text.newline_not_mem_collapse _),
        Page.newline_not_mem_firstLine _ _⟩

/-- The names and short descriptions of a class page are on single lines, in any document. -/
theorem ClassPage.newline_not_mem {document : Markup.Document} {s : ShortEntry}
    (h : s ∈ (ofDocument document).summaries) : '\n' ∉ s.name.text ∧ '\n' ∉ s.description := by
  obtain ⟨row, -, hrow⟩ := List.mem_filterMap.1 h
  obtain ⟨link, -, rfl⟩ := Option.map_eq_some_iff.1 hrow
  exact ⟨Identifier.newline_not_mem_normalize (Text.newline_not_mem_collapse _),
    Page.newline_not_mem_firstLine _ _⟩

/-- So are all texts of its functions, for the documentation texts are read line by line. -/
theorem ClassPage.isSingle_of_mem {document : Markup.Document} {owner : Identifier} {fs : List FunctionDoc}
    (h : (ofDocument document).functions owner = .ok fs) : ∀ f ∈ fs, f.IsSingle := by
  intro f hf
  rw [functions] at h
  split at h
  · rw [← Except.ok.inj h] at hf
    obtain ⟨i, hi, rfl⟩ := List.getElem_of_mem hf
    rw [List.getElem_zipWith]
    obtain ⟨hname, hshort⟩ := newline_not_mem (List.getElem_mem _)
    exact FunctionDoc.isSingle_ofBlob hname hshort _
  · cases h

namespace GroupStub

/-- The functions of a group whose pages are given as documents. -/
def functionsFrom (pages : Text → Except Failure Markup.Document) (g : ClassGroup) : List FunctionDoc :=
  g.entries.flatMap fun e =>
    found ((pages e.url).bind fun document => (ClassPage.ofDocument document).functions g.header.name)

/-- The functions of a group are those of the documents that its pages are read as. -/
theorem functionsIn_eq_functionsFrom (fetch : Text → Except Failure Text) (g : ClassGroup) :
    functionsIn fetch g = functionsFrom (fun url => (fetch url).map Markup.document) g := by
  refine List.flatMap_congr fun e _ => ?_
  show found (functionsOf fetch g.header.name e) = found (((fetch e.url).map Markup.document).bind _)
  rw [functionsOf]
  cases fetch e.url <;> rfl

/-- Whatever documents the pages are, the functions that are read from them are on single lines. -/
theorem isSingle_of_mem_functionsFrom {pages : Text → Except Failure Markup.Document} {g : ClassGroup}
    {f : FunctionDoc} (h : f ∈ functionsFrom pages g) : f.IsSingle := by
  obtain ⟨e, -, hf⟩ := List.mem_flatMap.1 h
  -- a page that cannot be had, or is not aligned, gives no functions
  cases hpage : pages e.url with
  | error failure =>
    rw [hpage] at hf
    cases hf
  | ok document =>
    rw [hpage] at hf
    change f ∈ found ((ClassPage.ofDocument document).functions g.header.name) at hf
    cases hr : (ClassPage.ofDocument document).functions g.header.name with
    | error failure =>
      rw [hr] at hf
      cases hf
    | ok fs =>
      rw [hr] at hf
      exact ClassPage.isSingle_of_mem hr f hf

/-- The stub of a group follows the grammar of stubs line by line, whatever documents the index and the pages
    are. -/
theorem splitAt_ofDocuments {index : Markup.Document} {g : ClassGroup}
    (hg : g ∈ ClassGroup.ofEntries (Index.entriesIn index)) (pages : Text → Except Failure Markup.Document) :
    let text := Stub.ofClass g.header (functionsFrom pages g)
    text.getLast? = some '\n' ∧
      ∃ blocks : List (List Text),
        List.Forall₂ (Stub.IsBlock g.header.name) (functionsFrom pages g) blocks ∧
        Text.splitAt '\n' text = Stub.headerLines g.header ++ blocks.flatten ++ [[]] := by
  obtain ⟨e, he, hheader⟩ := ClassGroup.exists_first hg
  obtain ⟨hname, hsummary⟩ := Index.newline_not_mem he
  have hn : '\n' ∉ g.header.name.text := by rw [hheader]; exact hname
  have hs : '\n' ∉ g.header.summary := by rw [hheader]; exact hsummary
  exact Stub.splitAt_ofClass hn hs fun f hf => isSingle_of_mem_functionsFrom hf

/-- The stub of a group of any index, with any answers to the requests for its pages, follows the grammar
    of stubs line by line. -/
theorem splitAt_ofGroup {index : Text} {g : ClassGroup}
    (hg : g ∈ ClassGroup.ofEntries (Index.entries index)) (fetch : Text → Except Failure Text) :
    (ofGroup fetch g).text.getLast? = some '\n' ∧
      ∃ blocks : List (List Text),
        List.Forall₂ (Stub.IsBlock g.header.name) (functionsIn fetch g) blocks ∧
        Text.splitAt '\n' (ofGroup fetch g).text
          = Stub.headerLines g.header ++ blocks.flatten ++ [[]] := by
  -- that the documents were read from texts does not matter
  rw [ofGroup_eq, functionsIn_eq_functionsFrom]
  exact splitAt_ofDocuments hg _

/-- An index of one class, whose summary is written on two lines. -/
def sampleIndex : Text :=
  "<table><tr><td class=name><a href=x>a</a><td class=summary>b\nc</table>".toList

/-- The group of that class. -/
def sampleGroup : ClassGroup :=
  ⟨⟨⟨"A".toList⟩, "b c".toList⟩, [⟨"x".toList, ⟨"A".toList⟩, "b c".toList⟩]⟩

/-- A page of one function, which takes a callback. -/
def samplePage : Text :=
  "<table class=function_list><tr><td class=name><a>f</a></table>".toList
    ++ "<dl class=function><dd>Parameters:\ncb\nfunc\nd\n\ne</dl>".toList

/-- The description of the callback stands on several lines of the page, and on one of the stub. -/
theorem splitAt_ofGroup_sample :
    sampleGroup ∈ ClassGroup.ofEntries (Index.entries sampleIndex) ∧
      (functionsIn (fun _ => .ok samplePage) sampleGroup).map (·.parameters)
        = [[⟨"cb".toList, .function, " d  e".toList⟩]] ∧
      (ofGroup (fun _ => .ok samplePage) sampleGroup).text.getLast? = some '\n' ∧
      ∃ blocks : List (List Text),
        List.Forall₂ (Stub.IsBlock ⟨"A".toList⟩)
          (functionsIn (fun _ => .ok samplePage) sampleGroup) blocks ∧
        Text.splitAt '\n' (ofGroup (fun _ => .ok samplePage) sampleGroup).text
          = Stub.headerLines sampleGroup.header ++ blocks.flatten ++ [[]] := by
  have hg : sampleGroup ∈ ClassGroup.ofEntries (Index.entries sampleIndex) := by decide +kernel
  exact ⟨hg, by decide +kernel, splitAt_ofGroup hg fun _ => .ok samplePage⟩

end GroupStub

end DocStub

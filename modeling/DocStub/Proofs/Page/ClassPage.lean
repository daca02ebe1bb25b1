/-
  Class pages decode to what they list.

  1. **Written pages** — `ClassPage.write` is the page of a class with a row of the table and an item of the list
     for each function; the texts are arbitrary but for NUL and carriage return (`Listed.IsPlain`).
  2. **The document** — the page adds the table and the list to the body (`adds_write`), so its document is the
     forest of these two (`document_write`).
  3. **Selections** — in this forest the rows are found inside the table and the items inside the list, and
     nothing else is (`filter_rows`, `filter_items`).
  4. **The result (`ofText_write`)** — the two lists are those of the names and summaries, on one line each, and of
     the documentation texts as they are; they are equally long, so every function is had.
-/
import DocStub.Proofs.Page.Listing

namespace DocStub.ClassPage

open Markup
open Markup.Write (AreAttrs IsPlain escape)
open Page (aroundBody cells classAttr)

/-! ## Written pages -/

/-- A function as a page lists it: its name, its short description, and its documentation text. -/
structure Listed where
  name : Text
  summary : Text
  blob : Text
  deriving DecidableEq, Repr

namespace Listed

structure IsPlain (f : Listed) : Prop where
  name : Write.IsPlain f.name
  summary : Write.IsPlain f.summary
  blob : Write.IsPlain f.blob

instance (f : Listed) : Decidable f.IsPlain :=
  decidable_of_iff (Write.IsPlain f.name ∧ Write.IsPlain f.summary ∧ Write.IsPlain f.blob)
    ⟨fun h => ⟨h.1, h.2.1, h.2.2⟩, fun h => ⟨h.name, h.summary, h.blob⟩⟩

/-- The row of a function. -/
def row (f : Listed) : Text := Page.linkRow "#".toList f.name f.summary

/-- The item of a function, behind a title without text. -/
def item (f : Listed) : Text := "<dt></dt><dd>".toList ++ escape false f.blob ++ "</dd>".toList

end Listed

/-- The page of a class. -/
def write (fs : List Listed) : Text :=
  "<table class=\"function_list\">".toList ++ fs.flatMap Listed.row
    ++ "</table><dl class=\"function\">".toList ++ fs.flatMap Listed.item ++ "</dl>".toList

/-! ## The document -/

namespace Listed

/-- The two elements of an item. -/
def itemForest (f : Listed) : Forest := .element .dt [] .nil (.element .dd [] (.ofText f.blob) .nil)

/-- The item of a function is two elements of the list. -/
theorem item_eq (f : Listed) :
    f.item = Write.element .dt [] [] ++ Write.element .dd [] (escape false f.blob) := by
  have hbegin : "<dt></dt><dd>".toList = Write.element .dt [] [] ++ Write.startTag .dd [] := by decide
  have hend : "</dd>".toList = Write.endTag .dd := by decide
  unfold item
  rw [hbegin, hend]
  simp only [Write.element, List.append_assoc]

/-- The item of a function adds its two elements. -/
theorem adds_item {f : Listed} (h : f.IsPlain) (l : Nat) : (Setting.list l).Adds f.item f.itemForest := by
  have hdt := (Setting.fits_item [] l (.inl rfl)).adds (by decide) Write.areAttrs_nil fun i =>
    (Setting.Adds.nil (s := Setting.item .dt l i)).fills .dt
  have hdd := (Setting.fits_item [] l (.inr rfl)).adds (by decide) Write.areAttrs_nil fun i =>
    (Setting.takesText_item (.inr rfl) l i).fills .dd h.blob.noNull
  rw [item_eq]
  exact hdt.append hdd

theorem return_not_mem_item {f : Listed} (h : f.IsPlain) : '\r' ∉ f.item := by
  rw [item_eq, List.mem_append, not_or]
  exact ⟨by decide, Write.return_not_mem_element (by decide) Write.areAttrs_nil
    (Write.return_not_mem_escape h.blob.noReturn)⟩

end Listed

/-- The cells of the row of a function. -/
def cellsOf (f : Listed) : Forest := cells "#".toList f.name f.summary

/-- What stands in the body of a page. -/
def forest (fs : List Listed) : Forest :=
  .element .table (classAttr "function_list") (Setting.sectionOf (fs.map cellsOf))
    (.element .dl (classAttr "function") (.concat (fs.map Listed.itemForest)) .nil)

/-- A written page is a table and a list. -/
theorem write_eq (fs : List Listed) : write fs
    = Write.element .table (classAttr "function_list") (fs.flatMap Listed.row)
      ++ Write.element .dl (classAttr "function") (fs.flatMap Listed.item) := by
  have hbegin : "<table class=\"function_list\">".toList
      = Write.startTag .table (classAttr "function_list") := by decide
  have hmiddle : "</table><dl class=\"function\">".toList
      = Write.endTag .table ++ Write.startTag .dl (classAttr "function") := by decide
  have hend : "</dl>".toList = Write.endTag .dl := by decide
  unfold write
  rw [hbegin, hmiddle, hend]
  simp only [Write.element, List.append_assoc]

theorem isPlain_hash : IsPlain "#".toList := by decide

theorem areAttrs_function_list : AreAttrs (classAttr "function_list") :=
  Page.areAttrs_classAttr (by decide)

theorem areAttrs_function : AreAttrs (classAttr "function") :=
  Page.areAttrs_classAttr (by decide)

section

variable {fs : List Listed} (h : ∀ f ∈ fs, f.IsPlain)

include h

/-- A written page adds its table and its list to the body. -/
theorem adds_write : Setting.page.Adds (write fs) (forest fs) := by
  have hrows (t : Nat) : (Setting.table t).Fills .table (fs.flatMap Listed.row)
      (Setting.sectionOf (fs.map cellsOf)) := by
    have hrow : Listed.row = fun f => Write.element .tr [] (Page.writtenCells "#".toList f.name f.summary) :=
      funext fun f => Page.linkRow_eq _ _ _
    rw [hrow]
    exact Setting.fills_table (fun f hf => Page.adds_cells isPlain_hash (h f hf).name (h f hf).summary) t
  have htable := (Setting.fits_table (classAttr "function_list")).adds (by decide) areAttrs_function_list hrows
  have hlist := (Setting.fits_list (classAttr "function")).adds (by decide) areAttrs_function fun l =>
    (Setting.Adds.flatMap fun f hf => Listed.adds_item (h f hf) l).fills .dl
  rw [write_eq]
  exact htable.append hlist

/-- A written page has no carriage return. -/
theorem return_not_mem_write : '\r' ∉ write fs := by
  rw [write_eq, List.mem_append, not_or]
  constructor
  · refine Write.return_not_mem_element (by decide) areAttrs_function_list fun hmem => ?_
    obtain ⟨f, hf, hr⟩ := List.mem_flatMap.1 hmem
    exact Page.return_not_mem_linkRow isPlain_hash (h f hf).name (h f hf).summary hr
  · refine Write.return_not_mem_element (by decide) areAttrs_function fun hmem => ?_
    obtain ⟨f, hf, hr⟩ := List.mem_flatMap.1 hmem
    exact Listed.return_not_mem_item (h f hf) hr

/-- The document of a written page is its forest in a body. -/
theorem document_write :
    document (write fs) = Document.empty.attach Document.root (forest fs).ofBody := by
  have hadds := adds_write h
  have hreturn := return_not_mem_write h
  rw [write_eq] at hadds hreturn ⊢
  exact document_written areAttrs_function_list hreturn hadds

end

/-! ## Selections -/

def tableLabel : Label := ⟨.table, classAttr "function_list"⟩

def listLabel : Label := ⟨.dl, classAttr "function"⟩

/-- The table as an element. -/
def tableElement (fs : List Listed) : Element :=
  ⟨aroundBody, tableLabel, Setting.sectionOf (fs.map cellsOf)⟩

/-- The row of a function as an element. -/
def rowElement (f : Listed) : Element :=
  ⟨⟨.tbody, []⟩ :: tableLabel :: aroundBody, ⟨.tr, []⟩, cellsOf f⟩

/-- The item of a function as an element. -/
def itemElement (f : Listed) : Element :=
  ⟨listLabel :: aroundBody, ⟨.dd, []⟩, .ofText f.blob⟩

/-- An item has two elements, and neither has another one in it. -/
theorem elements_itemForest (f : Listed) (around : List Label) :
    f.itemForest.elements around = [⟨around, ⟨.dt, []⟩, .nil⟩, ⟨around, ⟨.dd, []⟩, .ofText f.blob⟩] := by
  simp only [Listed.itemForest, Forest.elements, Forest.elements_ofText, List.nil_append, List.append_nil]

/-- The elements of a page: those around and before the rows, the rows, the list, and the items. -/
theorem elements_forest (fs : List Listed) : (forest fs).ofBody.elements [] =
    (Page.frame (forest fs) ++ [tableElement fs])
    ++ (Setting.sectionOf (fs.map cellsOf)).elements (tableLabel :: aroundBody)
    ++ [⟨aroundBody, listLabel, .concat (fs.map Listed.itemForest)⟩]
    ++ fs.flatMap fun f => f.itemForest.elements (listLabel :: aroundBody) := by
  rw [Page.elements_ofBody, forest, Forest.elements, Forest.elements, Forest.elements, Forest.elements_concat,
    List.flatMap_map]
  simp only [List.append_nil, List.append_assoc, List.cons_append, List.nil_append]
  rfl

/-- What is selected on a page is selected row by row, and then item by item. -/
theorem filter_forest (fs : List Listed) {admits : Element → Bool} {inRow inItem : Listed → List Element}
    (hbefore : (Page.frame (forest fs) ++ [tableElement fs]).filter admits = [])
    (hsection : ∀ f, admits ⟨tableLabel :: aroundBody, ⟨.tbody, []⟩, f⟩ = false)
    (hlist : ∀ f, admits ⟨aroundBody, listLabel, f⟩ = false)
    (hrow : ∀ f, (rowElement f :: (cellsOf f).elements (⟨.tr, []⟩ :: (rowElement f).around)).filter admits
      = inRow f)
    (hitem : ∀ f : Listed, (f.itemForest.elements (itemElement f).around).filter admits = inItem f) :
    ((forest fs).ofBody.elements []).filter admits = fs.flatMap inRow ++ fs.flatMap inItem := by
  -- by the parts of the page, of which only rows and items are selected
  have hrows : ((Setting.sectionOf (fs.map cellsOf)).elements
      (tableLabel :: aroundBody)).filter admits = fs.flatMap inRow := by
    rw [Page.filter_sectionOf hsection, List.flatMap_map]
    exact congrArg fs.flatMap (funext hrow)
  have hitems : (fs.flatMap fun f => f.itemForest.elements
      (listLabel :: aroundBody)).filter admits = fs.flatMap inItem := by
    rw [List.filter_flatMap]
    exact congrArg fs.flatMap (funext hitem)
  rw [elements_forest, List.filter_append, List.filter_append, List.filter_append, hbefore, hrows, hitems,
    List.filter_cons_of_neg (by simp [hlist]), List.filter_nil, List.nil_append, List.append_nil]

/-- The selector of rows finds the rows of the table, and nothing in the list. -/
theorem filter_rows (fs : List Listed) :
    ((forest fs).ofBody.elements []).filter rows.admits = fs.map rowElement := by
  have hrow (f : Listed) : (rowElement f :: (cellsOf f).elements
      (⟨.tr, []⟩ :: (rowElement f).around)).filter rows.admits = [rowElement f] := by
    rw [cellsOf, Page.elements_cells]
    rfl
  have hitem (f : Listed) : (f.itemForest.elements (itemElement f).around).filter rows.admits = [] := by
    rw [elements_itemForest]
    rfl
  rw [filter_forest fs rfl (fun _ => rfl) (fun _ => rfl) hrow hitem, List.flatMap_eq_nil_iff.2 fun _ _ => rfl,
    List.append_nil, List.map_eq_flatMap]

/-- The selector of items finds the items of the list, and nothing in the table. -/
theorem filter_items (fs : List Listed) :
    ((forest fs).ofBody.elements []).filter items.admits = fs.map itemElement := by
  have hrow (f : Listed) : (rowElement f :: (cellsOf f).elements
      (⟨.tr, []⟩ :: (rowElement f).around)).filter items.admits = [] := by
    rw [cellsOf, Page.elements_cells]
    rfl
  have hitem (f : Listed) : (f.itemForest.elements (itemElement f).around).filter items.admits
      = [itemElement f] := by
    rw [elements_itemForest]
    rfl
  rw [filter_forest fs rfl (fun _ => rfl) (fun _ => rfl) hrow hitem, List.map_eq_flatMap]
  exact congrArg (· ++ _) (List.flatMap_eq_nil_iff.2 fun _ _ => rfl)

/-! ## The result -/

/-- The function that a row lists, read off its element. -/
def entryAt? (e : Element) : Option ShortEntry :=
  (links.among e).head?.map fun link => ⟨.normalize (Page.lineAt link), Page.firstLineAt descriptions e⟩

/-- What is read from a place is what is read from the element that it shows. -/
theorem entryOf?_eq {p : Place} {e : Element} (h : p.Shows e) : entryOf? p = entryAt? e := by
  rw [entryOf?, entryAt?, Page.firstLine_eq descriptions h]
  exact Page.head?_below links h fun q x hq => by rw [Page.lineOf_eq hq]

/-- A row gives its name and its summary, each on one line. -/
theorem entryAt?_rowElement (f : Listed) :
    entryAt? (rowElement f) = some ⟨.normalize (Text.collapse f.name), Text.collapse f.summary⟩ := by
  have hbelow : (rowElement f).below = (cellsOf f).elements ((rowElement f).label :: (rowElement f).around) := rfl
  rw [entryAt?, Page.firstLineAt, Selector.among, Selector.among, hbelow, cellsOf, Page.elements_cells]
  show some (ShortEntry.mk (.normalize (Text.collapse (Forest.ofText f.name).allText))
    (Text.collapse (Forest.ofText f.summary).allText)) = _
  rw [Forest.allText_ofText, Forest.allText_ofText]

section

variable {fs : List Listed} (h : ∀ f ∈ fs, f.IsPlain)

include h

/-- The rows of a written page are read back, in order. -/
theorem summaries_ofText_write : (ofText (write fs)).summaries
    = fs.map fun f => ⟨.normalize (Text.collapse f.name), Text.collapse f.summary⟩ := by
  have hrows := rows.forall₂_inDocument (forest fs).ofBody
  have hentry : entryAt? ∘ rowElement
      = some ∘ fun f => ⟨.normalize (Text.collapse f.name), Text.collapse f.summary⟩ :=
    funext entryAt?_rowElement
  rw [filter_rows] at hrows
  rw [ofText, document_write h, ofDocument]
  show (rows.inDocument _).filterMap entryOf? = _
  rw [filterMap_eq_of_forall₂ hrows fun _ _ => entryOf?_eq, List.filterMap_map, hentry, List.filterMap_eq_map]

/-- The texts of a written page are read back as they are, in order. -/
theorem details_ofText_write : (ofText (write fs)).details = fs.map (·.blob) := by
  have hitems := items.forall₂_inDocument (forest fs).ofBody
  rw [filter_items] at hitems
  rw [ofText, document_write h, ofDocument]
  show (items.inDocument _).map (·.text) = _
  rw [map_eq_of_forall₂ hitems fun _ _ hp => hp.text_eq, List.map_map]
  exact List.map_congr_left fun f _ => Forest.allText_ofText f.blob

end

/-- The page of a class is read as the lists of what is written on it, so that every function is had from
    its own three texts. -/
theorem ofText_write {fs : List Listed} (h : ∀ f ∈ fs, f.IsPlain) :
    (ofText (write fs)).summaries
        = fs.map (fun f => ⟨.normalize (Text.collapse f.name), Text.collapse f.summary⟩)
      ∧ (ofText (write fs)).details = fs.map (·.blob)
      ∧ ∀ owner, functions owner (ofText (write fs)) = .ok (fs.map fun f =>
          .ofBlob (.normalize (Text.collapse f.name)) (Text.collapse f.summary) f.blob) := by
  refine ⟨summaries_ofText_write h, details_ofText_write h, fun owner => ?_⟩
  rw [functions, summaries_ofText_write h, details_ofText_write h, List.length_map, List.length_map,
    if_pos rfl, List.zipWith_map, List.zipWith_self]

/-- Two functions; signs of markup and line breaks stand in their texts. -/
def sample : List Listed :=
  [⟨"set\ntag".toList, "a < b".toList, "\n  Sets it.\nUsage: x &amp; y\n".toList⟩, ⟨"g".toList, [], []⟩]

/-- A page with escapes, newlines and an empty text, through the reader and into functions. -/
theorem ofText_write_sample :
    (∀ f ∈ sample, f.IsPlain)
      ∧ (ofText (write sample)).summaries
        = [⟨.normalize "set tag".toList, "a < b".toList⟩, ⟨.normalize "g".toList, []⟩]
      ∧ (ofText (write sample)).details = ["\n  Sets it.\nUsage: x &amp; y\n".toList, []]
      ∧ functions (.normalize "unit".toList) (ofText (write sample))
        = .ok [.ofBlob (.normalize "set tag".toList) "a < b".toList "\n  Sets it.\nUsage: x &amp; y\n".toList,
            .ofBlob (.normalize "g".toList) [] []] := by
  have h : ∀ f ∈ sample, f.IsPlain := by decide
  obtain ⟨hsummaries, hdetails, hfunctions⟩ := ofText_write h
  have hname : Text.collapse "set\ntag".toList = "set tag".toList := by decide
  have hsummary : Text.collapse "a < b".toList = "a < b".toList := by decide
  refine ⟨h, hsummaries.trans ?_, hdetails, (hfunctions _).trans ?_⟩
  · rw [sample, List.map_cons, hname, hsummary]
    rfl
  · rw [sample, List.map_cons, hname, hsummary]
    rfl

end DocStub.ClassPage

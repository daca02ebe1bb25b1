/-
  Rows that list something, as they are written and as they are read.

  1. **Written** — `Page.linkRow` writes a row with a link in a cell of class `name` and a text in a cell of class
     `summary`.  Reading it adds its cells to the row (`adds_cells`).
  2. **Read** — what a page reads off a place can as well be read off the element that the place shows
     (`head?_below`, `firstLine_eq`).
  3. **Selected** — the cells of a row hold three elements (`elements_cells`), of which the link and the summary
     are found by their classes.  The rows of a table are searched one after the other
     (`filter_sectionOf`).
-/
import DocStub.Page.ClassPage
import DocStub.Proofs.Markup.Setting
import DocStub.Proofs.Markup.View

namespace DocStub.Page

open Markup
open Markup.Write (AreAttrs IsPlain escape)

/-! ## Writing -/

/-- The attribute `class`. -/
def classAttr (word : String) : List Attr := [⟨"class".toList, word.toList⟩]

/-- The attribute of a link. -/
def linkAttr (url : Text) : List Attr := [⟨"href".toList, url⟩]

/-- A row with a link and a summary, as it is written. -/
def linkRow (url name summary : Text) : Text :=
  "<tr><td class=\"name\"><a href=\"".toList ++ escape true url ++ "\">".toList ++ escape false name
    ++ "</a></td><td class=\"summary\">".toList ++ escape false summary ++ "</td></tr>".toList

/-- The two cells, as they are written. -/
def writtenCells (url name summary : Text) : Text :=
  Write.element .td (classAttr "name")
      (Write.element .a (linkAttr url) (escape false name))
    ++ Write.element .td (classAttr "summary") (escape false summary)

/-- The two cells. -/
def cells (url name summary : Text) : Forest :=
  .element .td (classAttr "name") (.element .a (linkAttr url) (.ofText name) .nil)
    (.element .td (classAttr "summary") (.ofText summary) .nil)

theorem startTag_linkAttr (url : Text) :
    Write.startTag .a (linkAttr url) = "<a href=\"".toList ++ escape true url ++ "\">".toList := by
  have hopen : "<a href=\"".toList = '<' :: (Tag.a.written ++ ' ' :: ("href".toList ++ ['=', '"'])) := by
    decide
  have hclose : "\">".toList = ['"', '>'] := by decide
  rw [Write.startTag, linkAttr, List.flatMap_cons, Write.attr, hopen, hclose]
  simp only [List.flatMap_nil, List.append_nil, List.append_assoc, List.cons_append, List.nil_append]

/-- A row with a link, as it is written, is an element around two cells. -/
theorem linkRow_eq (url name summary : Text) :
    linkRow url name summary = Write.element .tr [] (writtenCells url name summary) := by
  have hbegin : "<tr><td class=\"name\"><a href=\"".toList
      = Write.startTag .tr [] ++ Write.startTag .td (classAttr "name") ++ "<a href=\"".toList := by
    decide
  have hmiddle : "</a></td><td class=\"summary\">".toList = Write.endTag .a ++ Write.endTag .td
      ++ Write.startTag .td (classAttr "summary") := by decide
  have hend : "</td></tr>".toList = Write.endTag .td ++ Write.endTag .tr := by decide
  unfold linkRow
  rw [hbegin, hmiddle, hend, writtenCells, Write.element, Write.element, Write.element, Write.element,
    startTag_linkAttr]
  simp only [List.append_assoc]

theorem areAttrs_classAttr {word : String} (h : IsPlain word.toList) : AreAttrs (classAttr word) :=
  Write.areAttrs_single (show Write.isName "class".toList = true by decide) h

theorem areAttrs_linkAttr {url : Text} (h : IsPlain url) : AreAttrs (linkAttr url) :=
  Write.areAttrs_single (show Write.isName "href".toList = true by decide) h

section

variable {url name summary : Text} (hurl : IsPlain url) (hname : IsPlain name) (hsummary : IsPlain summary)

include hurl hname hsummary

/-- Both cells are added, with the link in the first one. -/
theorem adds_cells (t b r : Nat) :
    (Setting.row t b r).Adds (writtenCells url name summary) (cells url name summary) := by
  have hlink (c : Nat) : (Setting.cell .td t b r c).Adds
      (Write.element .a (linkAttr url) (escape false name))
      (.element .a (linkAttr url) (.ofText name) .nil) :=
    (Setting.fits_link _ t b r c).adds (by decide) (areAttrs_linkAttr hurl) fun l =>
      (Setting.takesText_link _ t b r c l).fills .a hname.noNull
  have hfirst := (Setting.fits_cell (classAttr "name") t b r (.inl rfl)).adds (by decide)
    (areAttrs_classAttr (by decide)) fun c => (hlink c).fills .td
  have hsecond := (Setting.fits_cell (classAttr "summary") t b r (.inl rfl)).adds (by decide)
    (areAttrs_classAttr (by decide)) fun c =>
      (Setting.takesText_cell (.inl rfl) t b r c).fills .td hsummary.noNull
  exact hfirst.append hsecond

/-- If no part of a row has a carriage return, the row has none. -/
theorem return_not_mem_linkRow : '\r' ∉ linkRow url name summary := by
  rw [linkRow_eq]
  refine Write.return_not_mem_element (by decide) Write.areAttrs_nil ?_
  rw [writtenCells, List.mem_append, not_or]
  refine ⟨Write.return_not_mem_element (by decide) (areAttrs_classAttr (by decide)) ?_,
    Write.return_not_mem_element (by decide) (areAttrs_classAttr (by decide))
      (Write.return_not_mem_escape hsummary.noReturn)⟩
  exact Write.return_not_mem_element (by decide) (areAttrs_linkAttr hurl)
    (Write.return_not_mem_escape hname.noReturn)

end

/-! ## Reading -/

/-- The text of an element on one line. -/
def lineAt (e : Element) : Text := Text.collapse e.text

/-- The text of the first element selected inside an element, on one line; empty if there is none. -/
def firstLineAt (s : Selector) (e : Element) : Text := ((s.among e).head?.map lineAt).getD []

/-- The line of a place is the line of the element that it shows. -/
theorem lineOf_eq {p : Place} {e : Element} (h : p.Shows e) : lineOf p = lineAt e := by
  rw [lineOf, lineAt, h.text_eq]

/-- What is read off the first place selected below a place is read off the first element. -/
theorem head?_below {α : Type} (s : Selector) {p : Place} {e : Element} (h : p.Shows e) {f : Place → α}
    {g : Element → α} (hfg : ∀ q x, q.Shows x → f q = g x) :
    (s.below p).head?.map f = (s.among e).head?.map g := by
  rw [← List.head?_map, ← List.head?_map, map_eq_of_forall₂ (s.forall₂_below h) hfg]

/-- The first line that a selector finds is that of the first element it admits. -/
theorem firstLine_eq (s : Selector) {p : Place} {e : Element} (h : p.Shows e) :
    firstLine s p = firstLineAt s e := by
  rw [firstLine, head?_below s h fun _ _ => lineOf_eq, firstLineAt]

/-! ## Selecting -/

/-- The two cells and the link. -/
theorem elements_cells (url name summary : Text) (around : List Label) :
    (cells url name summary).elements around =
      [⟨around, ⟨.td, classAttr "name"⟩, .element .a (linkAttr url) (.ofText name) .nil⟩,
       ⟨⟨.td, classAttr "name"⟩ :: around, ⟨.a, linkAttr url⟩, .ofText name⟩,
       ⟨around, ⟨.td, classAttr "summary"⟩, .ofText summary⟩] := by
  simp only [cells, Forest.elements, Forest.elements_ofText, List.nil_append, List.append_nil,
    List.cons_append]

/-- The elements around what stands in the body. -/
def aroundBody : List Label := [⟨.body, []⟩, ⟨.html, []⟩]

/-- Root, head and body. -/
def frame (f : Forest) : List Element :=
  [⟨[], ⟨.html, []⟩, .element .head [] .nil (.element .body [] f .nil)⟩, ⟨[⟨.html, []⟩], ⟨.head, []⟩, .nil⟩,
   ⟨[⟨.html, []⟩], ⟨.body, []⟩, f⟩]

/-- Around a body there are only the root, the head and the body itself. -/
theorem elements_ofBody (f : Forest) : f.ofBody.elements [] = frame f ++ f.elements aroundBody := by
  rw [Forest.ofBody, Forest.elements, Forest.elements, Forest.elements]
  simp only [Forest.elements, List.nil_append, List.append_nil]
  rfl

/-- The section of a table is nothing that is looked for; its rows are searched one after the other. -/
theorem filter_sectionOf {admits : Element → Bool} {around : List Label}
    (hsection : ∀ f, admits ⟨around, ⟨.tbody, []⟩, f⟩ = false) (fs : List Forest) :
    ((Setting.sectionOf fs).elements around).filter admits = fs.flatMap fun f =>
      (⟨⟨.tbody, []⟩ :: around, ⟨.tr, []⟩, f⟩
        :: f.elements (⟨.tr, []⟩ :: ⟨.tbody, []⟩ :: around)).filter admits := by
  rw [Setting.sectionOf]
  split
  · next h => rw [h]; rfl
  · have hrow (f : Forest) : (Forest.element .tr [] f .nil).elements (⟨.tbody, []⟩ :: around)
        = ⟨⟨.tbody, []⟩ :: around, ⟨.tr, []⟩, f⟩ :: f.elements (⟨.tr, []⟩ :: ⟨.tbody, []⟩ :: around) := by
      rw [Forest.elements, Forest.elements, List.append_nil]
    rw [Forest.elements, Forest.elements, List.append_nil, List.filter_cons_of_neg (by simp [hsection]),
      Forest.elements_concat, List.flatMap_map, List.filter_flatMap]
    simp only [hrow]

end DocStub.Page

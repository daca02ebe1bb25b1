/-
  The index decodes to the classes of its first table.

  1. **Written pages** — `Index.write` is a page of tables, each with rows that list a class and rows that only
     hold a heading; the texts and addresses are arbitrary but for NUL and carriage return (`Row.IsPlain`).
  2. **The document** — each table adds itself to the body, so the document is the forest of all of them
     (`document_write`).
  3. **Selections** — the first table of the document is the first that was written
     (`exists_head?_tables`), and inside it the rows are found in their order (`among_rows`).
  4. **The result (`entries_write`)** — a row with a link lists its class, with the address as it is; a heading
     has no link and lists nothing.
-/
import DocStub.Proofs.Page.Listing

namespace DocStub.Index

open Markup
open Markup.Write (AreAttrs IsPlain escape)
open Page (aroundBody cells)

/-! ## Written pages -/

/-- A row of a table: one that lists a class, or a heading. -/
inductive Row where
  | listed (url name summary : Text)
  | heading (text : Text)
  deriving DecidableEq, Repr

namespace Row

def IsPlain : Row → Prop
  | listed url name summary => Write.IsPlain url ∧ Write.IsPlain name ∧ Write.IsPlain summary
  | heading text => Write.IsPlain text

instance (r : Row) : Decidable r.IsPlain :=
  match r with
  | listed url name summary =>
    inferInstanceAs (Decidable (Write.IsPlain url ∧ Write.IsPlain name ∧ Write.IsPlain summary))
  | heading text => inferInstanceAs (Decidable (Write.IsPlain text))

def write : Row → Text
  | listed url name summary => Page.linkRow url name summary
  | heading text => "<tr><th>".toList ++ escape false text ++ "</th></tr>".toList

/-- The class that is listed. -/
def entry? : Row → Option ClassEntry
  | listed url name summary => some ⟨url, .normalize (Text.collapse name), Text.collapse summary⟩
  | heading _ => none

end Row

/-- One table. -/
def writeTable (rs : List Row) : Text := "<table>".toList ++ rs.flatMap Row.write ++ "</table>".toList

/-- A page of tables. -/
def write (first : List Row) (more : List (List Row)) : Text := (first :: more).flatMap writeTable

/-! ## The document -/

namespace Row

/-- The cells of a row, as they are written. -/
def writtenCells : Row → Text
  | listed url name summary => Page.writtenCells url name summary
  | heading text => Write.element .th [] (escape false text)

/-- The cells of a row. -/
def cells : Row → Forest
  | listed url name summary => Page.cells url name summary
  | heading text => .element .th [] (.ofText text) .nil

/-- A row is an element around its cells. -/
theorem write_eq (r : Row) : r.write = Write.element .tr [] r.writtenCells := by
  cases r with
  | listed url name summary => exact Page.linkRow_eq url name summary
  | heading text =>
    have hbegin : "<tr><th>".toList = Write.startTag .tr [] ++ Write.startTag .th [] := by decide
    have hend : "</th></tr>".toList = Write.endTag .th ++ Write.endTag .tr := by decide
    unfold write writtenCells
    rw [hbegin, hend]
    simp only [Write.element, List.append_assoc]

/-- The cells of a row are added, with a link or without one. -/
theorem adds_cells {r : Row} (h : r.IsPlain) (t b i : Nat) :
    (Setting.row t b i).Adds r.writtenCells r.cells := by
  cases r with
  | listed url name summary => exact Page.adds_cells h.1 h.2.1 h.2.2 t b i
  | heading text =>
    exact (Setting.fits_cell [] t b i (.inr rfl)).adds (by decide) Write.areAttrs_nil fun c =>
      (Setting.takesText_cell (.inr rfl) t b i c).fills .th h.noNull

theorem return_not_mem_write {r : Row} (h : r.IsPlain) : '\r' ∉ r.write := by
  cases r with
  | listed url name summary => exact Page.return_not_mem_linkRow h.1 h.2.1 h.2.2
  | heading text =>
    rw [write_eq]
    exact Write.return_not_mem_element (by decide) Write.areAttrs_nil
      (Write.return_not_mem_element (by decide) Write.areAttrs_nil
        (Write.return_not_mem_escape h.noReturn))

end Row

/-- The forest of a table. -/
def tableForest (rs : List Row) : Forest := .element .table [] (Setting.sectionOf (rs.map Row.cells)) .nil

/-- A table is an element around its rows. -/
theorem writeTable_eq (rs : List Row) : writeTable rs = Write.element .table [] (rs.flatMap Row.write) := by
  have hbegin : "<table>".toList = Write.startTag .table [] := by decide
  have hend : "</table>".toList = Write.endTag .table := by decide
  unfold writeTable
  rw [hbegin, hend, Write.element]

/-- A table is added with a section around its rows. -/
theorem adds_writeTable {rs : List Row} (h : ∀ r ∈ rs, r.IsPlain) :
    Setting.page.Adds (writeTable rs) (tableForest rs) := by
  rw [writeTable_eq, funext Row.write_eq]
  exact (Setting.fits_table []).adds (by decide) Write.areAttrs_nil
    (Setting.fills_table fun r hr => Row.adds_cells (h r hr))

theorem return_not_mem_writeTable {rs : List Row} (h : ∀ r ∈ rs, r.IsPlain) : '\r' ∉ writeTable rs := by
  rw [writeTable_eq]
  refine Write.return_not_mem_element (by decide) Write.areAttrs_nil fun hmem => ?_
  obtain ⟨r, hr, hmem⟩ := List.mem_flatMap.1 hmem
  exact Row.return_not_mem_write (h r hr) hmem

/-- The document of a written index is its tables in a body. -/
theorem document_write {first : List Row} {more : List (List Row)}
    (h : ∀ rs ∈ first :: more, ∀ r ∈ rs, r.IsPlain) : document (write first more)
      = Document.empty.attach Document.root (Forest.concat ((first :: more).map tableForest)).ofBody := by
  have hadds : Setting.page.Adds (write first more) (.concat ((first :: more).map tableForest)) :=
    .flatMap fun rs hrs => adds_writeTable (h rs hrs)
  have hreturn : '\r' ∉ write first more := by
    intro hmem
    obtain ⟨rs, hrs, hmem⟩ := List.mem_flatMap.1 hmem
    exact return_not_mem_writeTable (h rs hrs) hmem
  rw [write, List.flatMap_cons, writeTable_eq] at hadds hreturn ⊢
  exact document_written Write.areAttrs_nil hreturn hadds

/-! ## Selections -/

/-- A table as an element. -/
def tableElement (rs : List Row) : Element :=
  ⟨aroundBody, ⟨.table, []⟩, Setting.sectionOf (rs.map Row.cells)⟩

/-- A row as an element. -/
def rowElement (r : Row) : Element := ⟨⟨.tbody, []⟩ :: ⟨.table, []⟩ :: aroundBody, ⟨.tr, []⟩, r.cells⟩

/-- The first table of the document is the first that was written. -/
theorem exists_head?_tables (first : List Row) (more : List (List Row)) :
    ∃ p, (tables.inDocument (Document.empty.attach Document.root
        (Forest.concat ((first :: more).map tableForest)).ofBody)).head? = some p
      ∧ p.Shows (tableElement first) := by
  have htables := tables.forall₂_inDocument (Forest.concat ((first :: more).map tableForest)).ofBody
  have hfirst : ((Forest.concat ((first :: more).map tableForest)).ofBody.elements []).filter tables.admits
      = tableElement first :: (((tableElement first).inside.elements (⟨.table, []⟩ :: aroundBody)
        ++ (Forest.concat (more.map tableForest)).elements aroundBody).filter tables.admits) := by
    rw [Page.elements_ofBody, List.filter_append, List.map_cons, Forest.concat, Forest.elements_append,
      tableForest, Forest.elements, Forest.elements, List.append_nil, List.cons_append]
    rfl
  rw [hfirst] at htables
  generalize tables.inDocument _ = ps at htables ⊢
  cases htables with
  | cons hp _ => exact ⟨_, rfl, hp⟩

/-- The rows of a table are found in their order. -/
theorem among_rows (rs : List Row) : rows.among (tableElement rs) = rs.map rowElement := by
  have hrow (r : Row) : (rowElement r :: r.cells.elements
      (⟨.tr, []⟩ :: ⟨.tbody, []⟩ :: ⟨.table, []⟩ :: aroundBody)).filter rows.admits = [rowElement r] := by
    cases r with
    | listed url name summary =>
      rw [Row.cells, Page.elements_cells]
      rfl
    | heading text =>
      rw [Row.cells, Forest.elements, Forest.elements, Forest.elements_ofText]
      rfl
  show ((Setting.sectionOf (rs.map Row.cells)).elements (⟨.table, []⟩ :: aroundBody)).filter rows.admits = _
  rw [Page.filter_sectionOf fun _ => rfl, List.flatMap_map, List.map_eq_flatMap]
  exact congrArg rs.flatMap (funext hrow)

/-! ## The result -/

/-- The class that a row lists, read off its element. -/
def entryAt? (e : Element) : Option ClassEntry :=
  match (links.among e).head? with
  | none => none
  | some link =>
    (link.label.attr? "href").map fun url =>
      ⟨url, .normalize (Page.lineAt link), Page.firstLineAt summaries e⟩

/-- What is read from a place is what is read from the element that it shows. -/
theorem entryOf?_eq {p : Place} {e : Element} (h : p.Shows e) : entryOf? p = entryAt? e := by
  have hlinks := links.forall₂_below h
  rw [entryOf?, entryAt?, Page.firstLine_eq summaries h]
  generalize links.below p = ps at hlinks
  generalize links.among e = es at hlinks
  cases hlinks with
  | nil => rfl
  | cons hq _ =>
    simp only [List.head?_cons]
    rw [hq.attr?_eq, Page.lineOf_eq hq]

/-- A row with a link gives its entry, and a heading gives none. -/
theorem entryAt?_rowElement (r : Row) : entryAt? (rowElement r) = r.entry? := by
  have hbelow : (rowElement r).below = r.cells.elements ((rowElement r).label :: (rowElement r).around) := rfl
  cases r with
  | listed url name summary =>
    rw [entryAt?, Page.firstLineAt, Selector.among, Selector.among, hbelow, Row.cells, Page.elements_cells]
    show some (ClassEntry.mk url (.normalize (Text.collapse (Forest.ofText name).allText))
      (Text.collapse (Forest.ofText summary).allText)) = _
    rw [Forest.allText_ofText, Forest.allText_ofText, Row.entry?]
  | heading text =>
    rw [entryAt?, Selector.among, hbelow, Row.cells, Forest.elements, Forest.elements, Forest.elements_ofText]
    rfl

/-- The index lists the classes of its first table, in the order of its rows, and no others. -/
theorem entries_write {first : List Row} {more : List (List Row)}
    (h : ∀ rs ∈ first :: more, ∀ r ∈ rs, r.IsPlain) :
    entries (write first more) = first.filterMap Row.entry? := by
  obtain ⟨p, hhead, hp⟩ := exists_head?_tables first more
  have hrows := rows.forall₂_below hp
  rw [among_rows] at hrows
  rw [entries, document_write h, entriesIn, hhead]
  show (rows.below p).filterMap entryOf? = _
  rw [filterMap_eq_of_forall₂ hrows fun _ _ => entryOf?_eq, List.filterMap_map]
  exact congrArg first.filterMap (funext entryAt?_rowElement)

/-- An index with a heading, escapes, a newline in a name, and a second table that is not read. -/
theorem entries_write_sample :
    (∀ rs ∈ [[Row.heading "<Classes>".toList, .listed "u?a=1&b".toList "fade\nin".toList "a & b".toList],
        [.listed "v".toList "other".toList []]], ∀ r ∈ rs, r.IsPlain)
      ∧ entries (write [.heading "<Classes>".toList, .listed "u?a=1&b".toList "fade\nin".toList "a & b".toList]
          [[.listed "v".toList "other".toList []]])
        = [⟨"u?a=1&b".toList, .normalize "fade in".toList, "a & b".toList⟩] :=
  ⟨by decide, (entries_write (by decide)).trans (by decide)⟩

end DocStub.Index

/-
  Building a document from written elements.

  1. **Settings** — between two elements a builder is told by a `Setting`: its stage, its open elements and
     its formatting elements.  `Setting.on` is the builder in a setting, with a document.
  2. **Adding and filling** — a written text `Adds` a forest if reading it puts the forest behind the children
     of the current element and comes back to the setting.  It `Fills` an empty element if it does so in
     front of the end tag.
  3. **The crux (`Fits.adds`)** — an element `Fits` into a setting if its start tag leads into a setting of its
     own and its end tag leads back.  Then whatever fills it may be written in it, to any depth, and
     written elements may stand side by side (`Adds.flatMap`).
  4. **Places** — the settings in the parts of a table, in a link, and in a list.  The section of a table is
     written nowhere: the first row supplies it, and the end of the table closes it (`fills_table`).
  5. **Pages** — a page that begins with a table supplies root, head and body, so the document is their
     forest around that of the page (`document_written`).
-/
import DocStub.Markup.Parse
import DocStub.Proofs.Markup.Forest
import DocStub.Proofs.Markup.Written

namespace DocStub.Markup

open Lexer (isSpace)

/-! ## Reading on -/

namespace Builder

variable {b : Builder} (hb : b.lexer = .data)

include hb

/-- The token at the front of the input is dealt with first. -/
theorem run_of_next? {input rest : Text} {token : Token}
    (h : Lexer.next? .data b.allowsVerbatim input = some ([token], rest)) :
    b.run input = (b.take token).run rest := by
  rw [← hb] at h
  rw [Builder.run]
  split
  · next hnone => exact absurd (h.symm.trans hnone) (Option.some_ne_none _)
  · next tokens rest' hsome =>
    obtain ⟨rfl, rfl⟩ := Prod.mk.inj (Option.some.inj (hsome.symm.trans h))
    rw [hb]
    rfl

/-- The builder takes a written start tag as one token. -/
theorem run_startTag {tag : Tag} {attrs : List Attr} (htag : tag ∈ Write.tags)
    (hattrs : Write.AreAttrs attrs) (rest : Text) :
    b.run (Write.startTag tag attrs ++ rest) = (b.take (.startTag tag attrs false)).run rest :=
  run_of_next? hb (Lexer.next?_startTag htag rest hattrs)

/-- The builder takes a written end tag as one token. -/
theorem run_endTag {tag : Tag} (htag : tag ∈ Write.tags) (rest : Text) :
    b.run (Write.endTag tag ++ rest) = (b.take (.endTag tag)).run rest :=
  run_of_next? hb (Lexer.next?_endTag htag rest)

end Builder

/-! ## Settings -/

/-- What a builder goes by between two elements. -/
structure Setting where
  stage : Stage
  opens : List Open
  formatting : List Formatting

namespace Setting

/-- The current element. -/
def above (s : Setting) : Nat := (s.opens.head?.map (·.id)).getD Document.root

/-- The builder in a setting, on an old page with a head. -/
def on (s : Setting) (d : Document) : Builder :=
  { doc := d, stage := s.stage, opens := s.opens, formatting := s.formatting, head := some 2,
    isOld := true, framesetOk := false }

/-- The setting in a further open element. -/
def within (s : Setting) (stage : Stage) (tag : Tag) (id : Nat) : Setting :=
  ⟨stage, ⟨id, ⟨.html, tag⟩⟩ :: s.opens, s.formatting⟩

/-- At the end of the input. -/
theorem run_nil (s : Setting) (d : Document) : (s.on d).run [] = s.on d := by
  rw [Builder.run]
  split
  · rfl
  · next hsome => exact absurd hsome.symm (Option.some_ne_none _)

/-! ## Adding and filling -/

/-- Reading the text puts the forest behind the children of the current element. -/
def Adds (s : Setting) (w : Text) (f : Forest) : Prop :=
  ∀ d, s.above < d.size → ∀ rest, (s.on d).run (w ++ rest) = (s.on (d.attach s.above f)).run rest

/-- Reading the text up to the end tag fills the current element, which is empty, with the forest. -/
def Fills (s : Setting) (tag : Tag) (w : Text) (f : Forest) : Prop :=
  ∀ d, s.above < d.size → d.lastChild? s.above = none → ∀ rest,
    (s.on d).run (w ++ (Write.endTag tag ++ rest))
      = (s.on (d.attach s.above f)).run (Write.endTag tag ++ rest)

/-- The element leads from a setting into one of its own, and back. -/
structure Fits (s : Setting) (tag : Tag) (attrs : List Attr) (inside : Nat → Setting) : Prop where
  above : ∀ id, (inside id).above = id
  opens : ∀ d, (s.on d).take (.startTag tag attrs false)
    = (inside d.size).on (d.grow s.above (.element ⟨.html, tag⟩ attrs))
  closes : ∀ d id, ((inside id).on d).take (.endTag tag) = s.on d

section

variable {s : Setting} {w w' : Text} {f f' : Forest}

theorem Adds.nil : s.Adds [] .nil := fun _ _ _ => rfl

/-- Texts that add forests add them side by side when they are written one behind the other. -/
theorem Adds.append (h : s.Adds w f) (h' : s.Adds w' f') : s.Adds (w ++ w') (f ++ f') := by
  intro d hd rest
  have hsize : s.above < (d.attach s.above f).size := by
    rw [Document.size_attach]
    omega
  rw [List.append_assoc, h d hd, h' _ hsize, Document.attach_append]

/-- Side by side, each adds its own. -/
theorem Adds.flatMap {α : Type} {xs : List α} {write : α → Text} {forest : α → Forest}
    (h : ∀ x ∈ xs, s.Adds (write x) (forest x)) :
    s.Adds (xs.flatMap write) (.concat (xs.map forest)) := by
  induction xs with
  | nil => exact .nil
  | cons x xs ih =>
    rw [List.flatMap_cons, List.map_cons, Forest.concat]
    exact (h x List.mem_cons_self).append (ih fun y hy => h y (List.mem_cons_of_mem x hy))

/-- What can be added anywhere can be added to an empty element. -/
theorem Adds.fills (h : s.Adds w f) (tag : Tag) : s.Fills tag w f := fun d hd _ _ => h d hd _

/-- An element with what fills it. -/
theorem Fits.adds {tag : Tag} {attrs : List Attr} {inside : Nat → Setting} (h : s.Fits tag attrs inside)
    (htag : tag ∈ Write.tags) (hattrs : Write.AreAttrs attrs) (hinside : ∀ id, (inside id).Fills tag w f) :
    s.Adds (Write.element tag attrs w) (.element tag attrs f .nil) := by
  intro d hd rest
  let d₁ := d.grow s.above (.element ⟨.html, tag⟩ attrs)
  have hsize : (inside d.size).above < d₁.size := by
    rw [h.above, Document.size_grow]
    omega
  have hempty : d₁.lastChild? (inside d.size).above = none := by
    rw [h.above]
    exact Document.lastChild?_grow_size _ hd
  calc (s.on d).run (Write.element tag attrs w ++ rest)
      = (s.on d).run (Write.startTag tag attrs ++ (w ++ (Write.endTag tag ++ rest))) := by
        rw [Write.element, List.append_assoc, List.append_assoc]
    _ = ((inside d.size).on d₁).run (w ++ (Write.endTag tag ++ rest)) := by
        rw [Builder.run_startTag rfl htag hattrs, h.opens]
    _ = ((inside d.size).on (d₁.attach d.size f)).run (Write.endTag tag ++ rest) := by
        rw [hinside d.size d₁ hsize hempty, h.above]
    _ = (s.on (d₁.attach d.size f)).run rest := by rw [Builder.run_endTag rfl htag, h.closes]

end

/-! ## Text -/

/-- A text goes into the current element. -/
def TakesText (s : Setting) : Prop :=
  ∀ d t, t ≠ [] → (s.on d).take (.text t) = s.on (d.appendText s.above t)

section

variable {s : Setting} {d : Document} {t : Text}

/-- If the latest formatting element is open, no formatting element is to be opened again. -/
theorem reopenFormatting_on (h : ∀ e ∈ s.formatting.head?, (s.on d).isSettled e = true) :
    (s.on d).reopenFormatting = s.on d := by
  have htake : s.formatting.takeWhile (fun e => !(s.on d).isSettled e) = [] := by
    cases hs : s.formatting with
    | nil => rfl
    | cons e es => rw [List.takeWhile_cons_of_neg (by simp [h e (by rw [hs]; rfl)])]
  have hdrop : s.formatting.dropWhile (fun e => !(s.on d).isSettled e) = s.formatting := by
    have hboth := List.takeWhile_append_dropWhile (p := fun e => !(s.on d).isSettled e) (l := s.formatting)
    rwa [htake] at hboth
  show ((s.formatting.takeWhile fun e => !(s.on d).isSettled e).reverse.foldl Builder.reopen
    { s.on d with formatting := s.formatting.dropWhile fun e => !(s.on d).isSettled e }) = _
  rw [htake, hdrop]
  rfl

/-- With nothing to reopen, a text goes behind the children of the current element. -/
theorem bodyText_on (hsettled : ∀ e ∈ s.formatting.head?, (s.on d).isSettled e = true)
    (hslot : (s.on d).slot s.opens.head? = .lastIn s.above) (ht : t ≠ []) :
    (s.on d).bodyText t = s.on (d.appendText s.above t) := by
  have hfix : (if t.all isSpace then s.on d else (s.on d).fixBody) = s.on d := ite_self _
  rw [Builder.bodyText, reopenFormatting_on hsettled]
  show Builder.insertText (if t.all isSpace then s.on d else (s.on d).fixBody) t = _
  rw [hfix, Builder.insertText, if_neg (by simpa using ht)]
  show { s.on d with doc := Builder.putText d t ((s.on d).slot s.opens.head?) } = _
  rw [hslot]
  rfl

/-- A text of a page with a body is taken as it is. -/
theorem take_text (ht : t ≠ []) : (s.on d).take (.text t) = (s.on d).settle (.text t) := by
  have htaken : (s.on d).takeText t = (s.on d).settle (.text t) := by
    cases t with
    | nil => exact absurd rfl ht
    | cons c t => rfl
  rw [← htaken]
  by_cases h : ∃ cs, t = '\n' :: cs
  · obtain ⟨cs, rfl⟩ := h
    rfl
  · rw [Builder.take]
    · rfl
    · exact fun cs hcs => h ⟨cs, hcs⟩

/-- A text ends in front of an end tag. -/
theorem endsData_endTag (tag : Tag) (rest : Text) : Lexer.endsData (Write.endTag tag ++ rest) = true := by
  rw [Write.endTag]
  cases tag.written <;> rfl

/-- Written text fills an element that takes text. -/
theorem TakesText.fills (h : s.TakesText) (tag : Tag) (ht : '\x00' ∉ t) :
    s.Fills tag (Write.escape false t) (.ofText t) := by
  intro d hd hempty rest
  rw [Forest.ofText]
  split
  · next hnil =>
    rw [hnil]
    rfl
  · next hne =>
    have happend : d.appendText s.above t = d.grow s.above (.text [t]) := by
      rw [Document.appendText, hempty]
      rfl
    rw [Builder.run_of_next? rfl (Lexer.next?_text hne ht (endsData_endTag tag rest)), h d t hne, happend]
    rfl

end

/-! ## Tables

  In each of these places stage and open elements are known, up to the numbers of the elements.  So a token
  takes a fixed number of steps there, and what it leads to is computed. -/

/-- In the body of a page. -/
def page : Setting := ⟨.inBody, [⟨3, ⟨.html, .body⟩⟩, ⟨1, ⟨.html, .html⟩⟩], []⟩

/-- Directly in the table with the number `t`, and further inside in its section, in a row and in a cell. -/
def table (t : Nat) : Setting := page.within .inTable .table t
def rows (t b : Nat) : Setting := (table t).within .inTableBody .tbody b
def row (t b r : Nat) : Setting := (rows t b).within .inRow .tr r
def cell (tag : Tag) (t b r c : Nat) : Setting :=
  { (row t b r).within .inCell tag c with formatting := [.marker] }

/-- In a link in a cell. -/
def link (attrs : List Attr) (t b r c l : Nat) : Setting :=
  { (cell .td t b r c).within .inCell .a l with formatting := [.element l .a attrs, .marker] }

section

variable (attrs : List Attr) (t b r c : Nat)

theorem fits_table : page.Fits .table attrs table := ⟨fun _ => rfl, fun _ => rfl, fun _ _ => rfl⟩

theorem fits_row : (rows t b).Fits .tr attrs (row t b) := ⟨fun _ => rfl, fun _ => rfl, fun _ _ => rfl⟩

/-- A cell may stand in a row: it puts up its marker, and takes it away again. -/
theorem fits_cell {tag : Tag} (htag : tag = .td ∨ tag = .th) :
    (row t b r).Fits tag attrs (cell tag t b r) := by
  rcases htag with rfl | rfl
  · exact ⟨fun _ => rfl, fun _ => rfl, fun _ _ => rfl⟩
  · exact ⟨fun _ => rfl, fun _ => rfl, fun _ _ => rfl⟩

/-- The border of the cell keeps the end of the link from looking any further. -/
theorem closeFormatting_link (d : Document) (l : Nat) :
    ((link attrs t b r c l).on d).closeFormatting .a = (cell .td t b r c).on d := by
  simp [Builder.closeFormatting, Builder.closeFormattingLoop, Builder.inScopeWith, Builder.searchOpen, on,
    link, within, cell, Name.isHtml, Formatting.isFor, Formatting.isElement]

/-- A link is a formatting element while it is open, and its end tag takes it off both lists. -/
theorem fits_link : (cell .td t b r c).Fits .a attrs (link attrs t b r c) where
  above _ := rfl
  opens _ := rfl
  closes d l := closeFormatting_link attrs t b r c d l

end

/-- In a cell there is nothing to reopen behind the marker. -/
theorem takesText_cell {tag : Tag} (htag : tag = .td ∨ tag = .th) (t b r c : Nat) :
    (cell tag t b r c).TakesText := by
  intro d cs hcs
  rw [take_text hcs]
  rcases htag with rfl | rfl
  all_goals
    refine bodyText_on (fun e he => ?_) rfl hcs
    rw [← Option.some.inj he]
    rfl

/-- In a link there is nothing to reopen, for the link itself is open. -/
theorem takesText_link (attrs : List Attr) (t b r c l : Nat) : (link attrs t b r c l).TakesText := by
  intro d cs hcs
  have hsettled : ((link attrs t b r c l).on d).isSettled (.element l .a attrs) = true := by
    simp [Builder.isSettled, on, link, within]
  rw [take_text hcs]
  show ((link attrs t b r c l).on d).bodyText cs = _
  refine bodyText_on (fun e he => ?_) rfl hcs
  rw [← Option.some.inj he]
  exact hsettled

/-- The first row supplies the section that it stands in. -/
theorem run_first_row (t : Nat) (d : Document) (rest : Text) :
    ((table t).on d).run (Write.startTag .tr [] ++ rest)
      = ((rows t d.size).on (d.grow t (.element ⟨.html, .tbody⟩ []))).run (Write.startTag .tr [] ++ rest) := by
  rw [Builder.run_startTag rfl (by decide) Write.areAttrs_nil,
    Builder.run_startTag rfl (by decide) Write.areAttrs_nil, (fits_row [] t d.size).opens]
  rfl

/-- The end of the table closes the section. -/
theorem run_end_table (t b : Nat) (d : Document) (rest : Text) :
    ((rows t b).on d).run (Write.endTag .table ++ rest)
      = ((table t).on d).run (Write.endTag .table ++ rest) := by
  rw [Builder.run_endTag rfl (by decide), Builder.run_endTag rfl (by decide)]
  rfl

/-- Rows in the section that a table has for them. -/
def sectionOf (fs : List Forest) : Forest :=
  if fs = [] then .nil
  else .element .tbody [] (.concat (fs.map fun f => .element .tr [] f .nil)) .nil

/-- Rows of written cells fill a table. -/
theorem fills_table {α : Type} {xs : List α} {write : α → Text} {forest : α → Forest}
    (h : ∀ x ∈ xs, ∀ t b r, (row t b r).Adds (write x) (forest x)) (t : Nat) :
    (table t).Fills .table (xs.flatMap fun x => Write.element .tr [] (write x))
      (sectionOf (xs.map forest)) := by
  intro d hd _ rest
  cases xs with
  | nil => rfl
  | cons x xs =>
    -- all rows stand in the section that the first one supplies
    let d₁ := d.grow t (.element ⟨.html, .tbody⟩ [])
    have hsize : d.size < d₁.size := by
      rw [Document.size_grow]
      omega
    have hrows : (rows t d.size).Adds ((x :: xs).flatMap fun x => Write.element .tr [] (write x))
        (.concat ((x :: xs).map fun x => .element .tr [] (forest x) .nil)) :=
      Adds.flatMap fun y hy => (fits_row [] t d.size).adds (by decide) Write.areAttrs_nil
        fun r => (h y hy t d.size r).fills .tr
    have hwritten : ((x :: xs).flatMap fun x => Write.element .tr [] (write x)) ++ (Write.endTag .table ++ rest)
        = Write.startTag .tr [] ++ (write x ++ (Write.endTag .tr
            ++ (xs.flatMap (fun x => Write.element .tr [] (write x)) ++ (Write.endTag .table ++ rest)))) := by
      simp only [List.flatMap_cons, Write.element, List.append_assoc]
    have hattach : d.attach t (sectionOf ((x :: xs).map forest))
        = d₁.attach d.size (.concat ((x :: xs).map fun x => .element .tr [] (forest x) .nil)) := by
      rw [sectionOf, if_neg (by simp), Document.attach_element, List.map_map]
      rfl
    rw [hwritten, run_first_row, ← hwritten, hrows d₁ hsize, run_end_table]
    show _ = ((table t).on (d.attach t _)).run _
    rw [hattach]
    rfl

/-! ## Lists -/

/-- In the list with the number `l`, and further inside in one of its items. -/
def list (l : Nat) : Setting := page.within .inBody .dl l
def item (tag : Tag) (l i : Nat) : Setting := (list l).within .inBody tag i

section

variable (attrs : List Attr) (l : Nat)

theorem fits_list : page.Fits .dl attrs list := ⟨fun _ => rfl, fun _ => rfl, fun _ _ => rfl⟩

/-- An item closes up to itself: no other item is open in the list. -/
theorem fits_item {tag : Tag} (htag : tag = .dt ∨ tag = .dd) : (list l).Fits tag attrs (item tag l) := by
  rcases htag with rfl | rfl
  · exact ⟨fun _ => rfl, fun _ => rfl, fun _ _ => rfl⟩
  · exact ⟨fun _ => rfl, fun _ => rfl, fun _ _ => rfl⟩

end

/-- In an item there is no formatting element at all. -/
theorem takesText_item {tag : Tag} (htag : tag = .dt ∨ tag = .dd) (l i : Nat) : (item tag l i).TakesText := by
  intro d cs hcs
  rw [take_text hcs]
  rcases htag with rfl | rfl
  all_goals exact bodyText_on (fun _ he => nomatch he) rfl hcs

/-! ## Pages -/

/-- The document before the first table of a page. -/
def start : Document :=
  ((Document.empty.grow Document.root (.element ⟨.html, .html⟩ [])).grow 1
    (.element ⟨.html, .head⟩ [])).grow 1 (.element ⟨.html, .body⟩ [])

/-- The first table supplies root, head and body. -/
theorem run_first_table {attrs : List Attr} (hattrs : Write.AreAttrs attrs) (rest : Text) :
    ({} : Builder).run (Write.startTag .table attrs ++ rest)
      = (page.on start).run (Write.startTag .table attrs ++ rest) := by
  rw [Builder.run_startTag rfl (by decide) hattrs, Builder.run_startTag rfl (by decide) hattrs,
    (fits_table attrs).opens]
  rfl

end Setting

/-- The forest of a page whose body holds `f`. -/
def Forest.ofBody (f : Forest) : Forest :=
  .element .html [] (.element .head [] .nil (.element .body [] f .nil)) .nil

/-- The numbers of root, head and body are those that the setting of a page goes by. -/
theorem Setting.attach_start (f : Forest) :
    Setting.start.attach 3 f = Document.empty.attach Document.root f.ofBody := by
  have hempty : Document.empty.size = 1 := rfl
  simp [Setting.start, Forest.ofBody, Document.attach, hempty]

/-- A page that begins with a table is read as the forest of what is written in it. -/
theorem document_written {attrs : List Attr} {inside w : Text} {f : Forest} (hattrs : Write.AreAttrs attrs)
    (hplain : '\r' ∉ Write.element .table attrs inside ++ w)
    (hadds : Setting.page.Adds (Write.element .table attrs inside ++ w) f) :
    document (Write.element .table attrs inside ++ w) = Document.empty.attach Document.root f.ofBody := by
  have hwritten : Write.element .table attrs inside ++ w
      = Write.startTag .table attrs ++ (inside ++ (Write.endTag .table ++ w)) := by
    rw [Write.element, List.append_assoc, List.append_assoc]
  have hmark : Lexer.dropByteOrderMark (Write.element .table attrs inside ++ w)
      = Write.element .table attrs inside ++ w := rfl
  -- root, head and body are there when the table begins
  have hsize : Setting.page.above < Setting.start.size := by
    rw [Setting.start, Document.size_grow, Document.size_grow, Document.size_grow]
    decide
  have hpage := hadds Setting.start hsize []
  rw [List.append_nil, Setting.run_nil, hwritten] at hpage
  rw [document, hmark, Lexer.unifyNewlines_eq_self hplain, hwritten, Setting.run_first_table hattrs, hpage]
  exact Setting.attach_start f

end DocStub.Markup

/-
  The index page of a documentation site.

  The first table lists the classes, one per row: a cell of class `name` with a link, and a cell of class
  `summary`.  A row without a link, or with a link that leads nowhere, lists no class.
-/
import DocStub.Identifier
import DocStub.Markup.Parse
import DocStub.Markup.Selector

namespace DocStub

open Markup (Place Selector Tag)

/-- A class as the index lists it. -/
structure ClassEntry where
  url : Text
  name : Identifier
  summary : Text
  deriving DecidableEq, Repr

namespace Page

/-- The text of an element on one line. -/
def lineOf (p : Place) : Text := Text.collapse p.text

/-- The text of the first element selected below a place, on one line; empty if there is none. -/
def firstLine (s : Selector) (p : Place) : Text := ((s.below p).head?.map lineOf).getD []

end Page

namespace Index

def tables : Selector := ⟨⟨some .table, none⟩, []⟩
def rows : Selector := ⟨⟨some .tr, none⟩, []⟩
def links : Selector := ⟨⟨some .a, none⟩, [⟨some .td, some "name"⟩]⟩
def summaries : Selector := ⟨⟨some .td, some "summary"⟩, []⟩

/-- The class that a row lists. -/
def entryOf? (row : Place) : Option ClassEntry :=
  match (links.below row).head? with
  | none => none
  | some link =>
    (link.attr? "href").map fun url =>
      ⟨url, .normalize (Page.lineOf link), Page.firstLine summaries row⟩

/-- The classes that the first table of a document lists. -/
def entriesIn (document : Markup.Document) : List ClassEntry :=
  match (tables.inDocument document).head? with
  | none => []
  | some table => (rows.below table).filterMap entryOf?

/-- The classes that an index page lists. -/
def entries (page : Text) : List ClassEntry := entriesIn (Markup.document page)

end Index

end DocStub

/-
  The page of a class.

  1. **Two lists** — the rows of a table of class `function_list` list the functions with a short
     description; the items of a list of class `function` hold their documentation texts, in the same
     order.
  2. **Alignment** — the lists belong together only if they are equally long (`ClassPage.functions`).
-/
import DocStub.Doc.Function
import DocStub.Page.Index
import DocStub.Site.Failure

namespace DocStub

open Markup (Place Selector Tag)

/-- A function as the table lists it. -/
structure ShortEntry where
  name : Identifier
  description : Text
  deriving DecidableEq, Repr

/-- The two lists of a class page. -/
structure ClassPage where
  summaries : List ShortEntry
  details : List Text
  deriving DecidableEq, Repr

namespace ClassPage

def rows : Selector := ⟨⟨some .tr, none⟩, [⟨some .table, some "function_list"⟩]⟩
def links : Selector := ⟨⟨some .a, none⟩, [⟨none, some "name"⟩]⟩
def descriptions : Selector := ⟨⟨none, some "summary"⟩, []⟩
def items : Selector := ⟨⟨some .dd, none⟩, [⟨some .dl, some "function"⟩]⟩

/-- The function that a row lists. -/
def entryOf? (row : Place) : Option ShortEntry :=
  (links.below row).head?.map fun link =>
    ⟨.normalize (Page.lineOf link), Page.firstLine descriptions row⟩

/-- The two lists of a document. -/
def ofDocument (document : Markup.Document) : ClassPage :=
  { summaries := (rows.inDocument document).filterMap entryOf?
    details := (items.inDocument document).map (·.text) }

/-- Reads the page of a class. -/
def ofText (page : Text) : ClassPage := ofDocument (Markup.document page)

/-- The functions of the class `owner`, if the two lists of its page are aligned. -/
def functions (owner : Identifier) (page : ClassPage) : Except Failure (List FunctionDoc) :=
  if page.summaries.length = page.details.length then
    .ok (page.summaries.zipWith (fun s blob => .ofBlob s.name s.description blob) page.details)
  else .error (.misaligned owner page.summaries.length page.details.length)

end ClassPage

end DocStub

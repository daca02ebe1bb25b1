/-
  The state of a document under construction, and its elementary changes.

  1. **Open elements** — `opens` lists the elements whose end has not been reached, innermost first.
     A search of this list is bounded by a limit (`inScope`); ends that were left out are supplied by
     dropping elements from its front (`closeImplied`, `closeThrough`, `closeTo`).
  2. **Formatting** — `formatting` lists the formatting elements that may have to be opened again, the
     latest first, with markers at the borders of cells, captions and templates.
  3. **Placing** — new content goes to the end of the current element.  While `fostering`, content that a
     table does not admit goes in front of the table (`slot`, `put`).
  4. **Reading on** — a step answers an `Outcome`: the token is used up, or a token is still to be dealt
     with, in a changed state.
-/
import DocStub.Markup.Document
import DocStub.Markup.Lexer

namespace DocStub.Markup

/-- The part of a document that is being built, which decides what the next token means. -/
inductive Stage where
  | initial | beforeHtml | beforeHead | inHead | afterHead | inBody | inText
  | inTable | inCaption | inColumnGroup | inTableBody | inRow | inCell
  | inSelect | inSelectInTable | inTemplate
  | afterBody | inFrameset | afterFrameset | afterAfterBody | afterAfterFrameset
  deriving DecidableEq, Repr

/-- An element that is open. -/
structure Open where
  id : Nat
  name : Name
  deriving DecidableEq, Repr

/-- An entry of the list of formatting elements. -/
inductive Formatting where
  | marker
  | element (id : Nat) (tag : Tag) (attrs : List Attr)
  deriving DecidableEq, Repr

namespace Formatting

/-- Is this the entry of the element with the number `id`? -/
def isFor (id : Nat) : Formatting → Bool
  | marker => false
  | element other _ _ => other == id

/-- Is this an element? -/
def isElement : Formatting → Bool
  | marker => false
  | element _ _ _ => true

end Formatting

/-- A document under construction. -/
structure Builder where
  doc : Document := .empty
  stage : Stage := .initial
  /-- The stage to go back to after the text of a title, style or script. -/
  resume : Stage := .initial
  /-- How text is to be read now. -/
  lexer : Lexer.Mode := .data
  opens : List Open := []
  formatting : List Formatting := []
  /-- The stages inside the open templates, innermost first. -/
  templates : List Stage := []
  /-- Text found directly inside a table, which is placed when its end is known. -/
  tableText : Option (List Text) := none
  head : Option Nat := none
  form : Option Nat := none
  /-- Pages of an old document type let a table stand inside a paragraph. -/
  isOld : Bool := false
  framesetOk : Bool := true
  /-- A newline directly after certain start tags is no text. -/
  skipNewline : Bool := false
  /-- Whether content that a table does not admit is placed in front of it. -/
  fostering : Bool := false

/-- What became of a token. -/
inductive Outcome where
  | done (b : Builder)
  | again (b : Builder) (token : Token)

namespace Builder

/-! ## Asking about the open elements -/

/-- Is the current element one of those that `p` admits? -/
def currentIn (b : Builder) (p : Name → Bool) : Bool := b.opens.head?.any fun o => p o.name

/-- Is the current element the page element `tag`? -/
def currentIs (b : Builder) (tag : Tag) : Bool := b.currentIn (·.isHtml tag)

/-- Is any element open with this tag? -/
def hasOpen (b : Builder) (tag : Tag) : Bool := b.opens.any (·.name.isHtml tag)

/-- Searches the open elements from the inside for one that passes `p`, not beyond `limit`. -/
def searchOpen (limit : Name → Bool) (p : Open → Bool) : List Open → Bool
  | [] => false
  | o :: os => p o || (!limit o.name && searchOpen limit p os)

/-- Is an element that passes `p` open inside the limit? -/
def inScopeWith (b : Builder) (limit : Name → Bool) (p : Open → Bool) : Bool :=
  searchOpen limit p b.opens

/-- Is the page element `tag` open inside the limit? -/
def inScope (b : Builder) (limit : Name → Bool) (tag : Tag) : Bool :=
  b.inScopeWith limit (·.name.isHtml tag)

/-- The root element, the outermost of all. -/
def rootOpen? (b : Builder) : Option Open := b.opens.getLast?

/-- The body, if it is open directly inside the root. -/
def bodyOpen? (b : Builder) : Option Open :=
  b.opens.reverse[1]?.filter (·.name.isHtml .body)

/-! ## Closing elements -/

/-- Closes the current element. -/
def pop (b : Builder) : Builder := { b with opens := b.opens.drop 1 }

/-- The open elements outside the innermost one that passes `p`. -/
def dropThrough (p : Open → Bool) : List Open → List Open
  | [] => []
  | o :: os => if p o then os else dropThrough p os

/-- Closes elements up to and with the first that passes `p`. -/
def closeThroughWith (b : Builder) (p : Name → Bool) : Builder :=
  { b with opens := dropThrough (fun o => p o.name) b.opens }

/-- Closes elements up to and with the first `tag`. -/
def closeThrough (b : Builder) (tag : Tag) : Builder := b.closeThroughWith (·.isHtml tag)

/-- Closes elements until the current one passes `p`. -/
def closeTo (b : Builder) (p : Name → Bool) : Builder :=
  { b with opens := b.opens.dropWhile fun o => !p o.name }

/-- Closes the elements at the front whose end may be left out. -/
def closeImplied (b : Builder) (p : Tag → Bool) : Builder :=
  { b with opens := b.opens.dropWhile fun o => o.name.htmlIn p }

/-- The same, but not the element `tag` itself. -/
def closeImpliedExcept (b : Builder) (tag : Tag) : Builder :=
  b.closeImplied fun t => t.mayBeUnclosed && t != tag

/-- Closes an open paragraph. -/
def closeParagraph (b : Builder) : Builder :=
  if b.inScope Name.endsButtonScope .p then (b.closeImpliedExcept .p).closeThrough .p else b

/-- Takes one element out of the open elements, wherever it stands. -/
def removeOpen (b : Builder) (id : Nat) : Builder :=
  { b with opens := b.opens.filter (·.id != id) }

/-! ## Placing content -/

/-- A place for new content. -/
inductive Slot where
  | lastIn (id : Nat)
  | beforeTable (table outside : Nat)

/-- The place in front of the innermost table, or in a template inside it. -/
def fosterSlot (doc : Document) : List Open → Slot
  | [] => .lastIn Document.root
  | [o] => .lastIn (if o.name.isHtml .template then doc.contentOf o.id else o.id)
  | o :: outer :: os =>
    if o.name.isHtml .template then .lastIn (doc.contentOf o.id)
    else if o.name.isHtml .table then .beforeTable o.id outer.id
    else fosterSlot doc (outer :: os)

/-- Where content for the element `target` goes. -/
def slot (b : Builder) (target : Option Open) : Slot :=
  match target with
  | none => .lastIn Document.root
  | some o =>
    if b.fostering && o.name.rejectsText then fosterSlot b.doc b.opens
    else if o.name.isHtml .template then .lastIn (b.doc.contentOf o.id)
    else .lastIn o.id

/-- Puts a node at a place. -/
def put (doc : Document) (id : Nat) : Slot → Document
  | .lastIn target => doc.append target id
  | .beforeTable table outside =>
    if (doc.parent? table).isSome then doc.insertBefore table id else doc.append outside id

/-- Puts text at a place. -/
def putText (doc : Document) (cs : Text) : Slot → Document
  | .lastIn target => doc.appendText target cs
  | .beforeTable table outside =>
    if (doc.parent? table).isSome then doc.insertTextBefore table cs else doc.appendText outside cs

/-- Adds text to the current element. -/
def insertText (b : Builder) (cs : Text) : Builder :=
  if cs.isEmpty then b
  else
    let slot := b.slot b.opens.head?
    { b with doc := putText b.doc cs slot }

/-- Adds a comment to the current element. -/
def insertComment (b : Builder) : Builder :=
  let slot := b.slot b.opens.head?
  let id := b.doc.size
  { b with doc := put (b.doc.add .comment) id slot }

/-- Adds an element to the current element; it stays open if `stays`. -/
def insert (b : Builder) (name : Name) (attrs : List Attr) (stays : Bool) : Builder :=
  let slot := b.slot b.opens.head?
  let id := b.doc.size
  let opens := if stays then ⟨id, name⟩ :: b.opens else b.opens
  { b with opens := opens, doc := put (b.doc.addElement name attrs) id slot }

/-- Adds a page element, which stays open. -/
def insertHtml (b : Builder) (tag : Tag) (attrs : List Attr) : Builder :=
  b.insert ⟨.html, tag⟩ attrs true

/-- Adds a page element without content. -/
def insertVoid (b : Builder) (tag : Tag) (attrs : List Attr) : Builder :=
  b.insert ⟨.html, tag⟩ attrs false

/-- Adds an element whose text is read in a mode of its own. -/
def insertWithText (b : Builder) (tag : Tag) (attrs : List Attr) (mode : Lexer.Mode) : Builder :=
  let b := b.insertHtml tag attrs
  { b with resume := b.stage, stage := .inText, lexer := mode }

/-- Gives the root element those of the attributes that it does not have. -/
def addToRoot (b : Builder) (attrs : List Attr) : Builder :=
  match b.rootOpen? with
  | some o => if b.hasOpen .template then b else { b with doc := b.doc.addMissingAttrs o.id attrs }
  | none => b

/-! ## The stage that fits the open elements -/

/-- The stage of a selection list with the elements `outside` around it. -/
def selectStage : List Open → Stage
  | [] => .inSelect
  | o :: os =>
    if o.name.isHtml .template then .inSelect
    else if o.name.isHtml .table then .inSelectInTable
    else selectStage os

/-- The stage that the innermost telling element stands for. -/
def stageOf (templates : List Stage) (head : Option Nat) : List Open → Stage
  | [] => .inBody
  | o :: os =>
    if o.name.space != .html then stageOf templates head os
    else
      match o.name.tag with
      | .select => selectStage os
      | .td | .th => if os.isEmpty then stageOf templates head os else .inCell
      | .tr => .inRow
      | .tbody | .thead | .tfoot => .inTableBody
      | .caption => .inCaption
      | .colgroup => .inColumnGroup
      | .table => .inTable
      | .template => templates.head?.getD .inBody
      | .head => if os.isEmpty then stageOf templates head os else .inHead
      | .body => .inBody
      | .frameset => .inFrameset
      | .html => if head.isNone then .beforeHead else .afterHead
      | _ => stageOf templates head os

/-- Goes to the stage that fits the open elements. -/
def resetStage (b : Builder) : Builder :=
  { b with stage := stageOf b.templates b.head b.opens }

/-- Goes to a stage. -/
def toStage (b : Builder) (stage : Stage) : Builder := { b with stage := stage }

/-- The page can no longer become a set of frames. -/
def fixBody (b : Builder) : Builder := { b with framesetOk := false }

/-- Forgets the formatting elements up to and with the last marker. -/
def clearFormatting (b : Builder) : Builder :=
  { b with formatting := (b.formatting.dropWhile (·.isElement)).drop 1 }

/-- Notes a border for formatting elements. -/
def markFormatting (b : Builder) : Builder := { b with formatting := .marker :: b.formatting }

end Builder

end DocStub.Markup

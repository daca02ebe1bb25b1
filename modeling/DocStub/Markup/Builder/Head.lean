/-
  The stages up to the body.

  A page may leave out its root, head and body.  Each of the early stages deals with the tokens that
  belong to it, and supplies the missing element at the first token that does not.  `inHead` also serves
  the later stages for the elements that may stand anywhere: titles, styles, scripts and templates.
-/
import DocStub.Markup.Builder.Formatting

namespace DocStub.Markup.Builder

open Lexer (isSpace)

/-- Deals with the leading blanks of a text by `blanks`, and passes the rest on in the state `next`. -/
def splitText (blanks : Text → Builder) (next : Builder → Builder) (cs : Text) : Outcome :=
  let b := blanks (cs.takeWhile isSpace)
  match cs.dropWhile isSpace with
  | [] => .done b
  | rest => .again (next b) (.text rest)

/-! ## Before the root -/

/-- Nothing has been read yet but blanks and comments. -/
def inInitial (b : Builder) (token : Token) : Outcome :=
  let next (b : Builder) : Builder := { b with stage := .beforeHtml, isOld := true }
  match token with
  | .text cs => splitText (fun _ => b) next cs
  | .comment => .done b
  | .doctype d => .done { b with stage := .beforeHtml, isOld := d.isOld }
  | t => .again (next b) t

/-- Supplies the root element. -/
def insertRoot (b : Builder) (attrs : List Attr) : Builder :=
  let id := b.doc.size
  { b with doc := (b.doc.addElement ⟨.html, .html⟩ attrs).append Document.root id,
           opens := [⟨id, ⟨.html, .html⟩⟩], stage := .beforeHead }

/-- End tags that supply a missing root, head or body as any other content does. -/
def endsEarly : Tag → Bool
  | .head | .body | .html | .br => true
  | _ => false

/-- The root element is missing. -/
def inBeforeHtml (b : Builder) (token : Token) : Outcome :=
  match token with
  | .text cs => splitText (fun _ => b) (·.insertRoot []) cs
  | .comment => .done b
  | .startTag .html attrs _ => .done (b.insertRoot attrs)
  | .endTag tag => if endsEarly tag then .again (b.insertRoot []) token else .done b
  | t => .again (b.insertRoot []) t

/-! ## The head -/

/-- Begins the head. -/
def insertHead (b : Builder) (attrs : List Attr) : Builder :=
  { b with head := some b.doc.size, stage := .inHead }.insertHtml .head attrs

/-- The head is missing. -/
def inBeforeHead (b : Builder) (token : Token) : Outcome :=
  match token with
  | .text cs => splitText (fun _ => b) (·.insertHead []) cs
  | .comment => .done b.insertComment
  | .startTag .html attrs _ => .done (b.addToRoot attrs)
  | .startTag .head attrs _ => .done (b.insertHead attrs)
  | .endTag tag => if endsEarly tag then .again (b.insertHead []) token else .done b
  | t => .again (b.insertHead []) t

/-- Ends the head. -/
def leaveHead (b : Builder) : Builder := b.pop.toStage .afterHead

/-- Begins a template. -/
def openTemplate (b : Builder) (attrs : List Attr) : Builder :=
  let b := ((b.insertHtml .template attrs).markFormatting.fixBody).toStage .inTemplate
  { b with templates := .inTemplate :: b.templates }

/-- Ends a template, if one is open. -/
def closeTemplate (b : Builder) : Builder :=
  if b.hasOpen .template then
    let b := (((b.closeImplied Tag.mayBeUnclosedInTemplate).closeThrough .template).clearFormatting)
    { b with templates := b.templates.drop 1 }.resetStage
  else b

/-- In the head, or an element of the head elsewhere. -/
def inHead (b : Builder) (token : Token) : Outcome :=
  match token with
  | .text cs => splitText b.insertText leaveHead cs
  | .startTag .html attrs _ => .done (b.addToRoot attrs)
  | .startTag .head _ _ => .done b
  | .startTag .title attrs _ => .done (b.insertWithText .title attrs (.titled .title))
  | .startTag .script attrs _ => .done (b.insertWithText .script attrs .script)
  | .startTag .template attrs _ => .done (b.openTemplate attrs)
  | .startTag tag attrs _ =>
    match tag with
    | .base | .basefont | .bgsound | .link | .metaInfo => .done (b.insertVoid tag attrs)
    | .noframes | .style | .noscript => .done (b.insertWithText tag attrs (.raw tag))
    | _ => .again b.leaveHead token
  | .comment => .done b.insertComment
  | .endTag .head => .done b.leaveHead
  | .endTag .template => .done b.closeTemplate
  | .endTag tag => if endsEarly tag then .again b.leaveHead token else .done b
  | t => .again b.leaveHead t

/-- Start tags of elements that belong to the head wherever they stand. -/
def belongsToHead : Tag → Bool
  | .base | .basefont | .bgsound | .link | .metaInfo | .noframes | .script | .style | .template
  | .title => true
  | _ => false


/-! ## Between head and body -/

/-- Supplies the body. -/
def insertBody (b : Builder) : Builder := (b.insertHtml .body []).toStage .inBody

/-- The body is missing. -/
def inAfterHead (b : Builder) (token : Token) : Outcome :=
  match token with
  | .text cs => splitText b.insertText insertBody cs
  | .comment => .done b.insertComment
  | .startTag .html attrs _ => .done (b.addToRoot attrs)
  | .startTag .head _ _ => .done b
  | .startTag .body attrs _ => .done ((b.insertHtml .body attrs).fixBody.toStage .inBody)
  | .startTag .frameset attrs _ => .done ((b.insertHtml .frameset attrs).toStage .inFrameset)
  | .startTag tag _ _ =>
    if belongsToHead tag then
      match b.head with
      | none => .done b
      | some id =>
        match inHead { b with opens := ⟨id, ⟨.html, .head⟩⟩ :: b.opens } token with
        | .done b => .done (b.removeOpen id)
        | .again b t => .again (b.removeOpen id) t
    else .again b.insertBody token
  | .endTag .template => inHead b token
  | .endTag .head => .done b
  | .endTag tag => if endsEarly tag then .again b.insertBody token else .done b
  | t => .again b.insertBody t

end DocStub.Markup.Builder

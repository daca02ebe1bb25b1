/-
  Content of the body.

  Most content of a page is read by these rules, also inside cells, captions and templates.  A start tag
  may first close what cannot hold its element; an end tag looks for its element inside a limit, closes
  what was left open in it, and is ignored if it finds none.
-/
import DocStub.Markup.Builder.Head

namespace DocStub.Markup.Builder

open Lexer (isSpace)

/-- Text in the body. -/
def bodyText (b : Builder) (cs : Text) : Builder :=
  let b := b.reopenFormatting
  let b := if cs.all isSpace then b else b.fixBody
  b.insertText cs

/-! ## Families of start tags -/

/-- Blocks: they close an open paragraph. -/
def isBlock : Tag → Bool
  | .address | .article | .aside | .blockquote | .center | .details | .dialog | .dir | .div | .dl
  | .fieldset | .figcaption | .figure | .footer | .header | .hgroup | .mainPart | .nav | .ol | .p
  | .search | .sectionPart | .summary | .ul | .menu => true
  | _ => false

/-- Elements that format the text inside them. -/
def isFormatting : Tag → Bool
  | .b | .big | .code | .em | .font | .i | .s | .small | .strike | .strong | .tt | .u => true
  | _ => false

/-- Elements without content that stand in a line of text. -/
def isVoidInline : Tag → Bool
  | .area | .br | .embed | .img | .keygen | .wbr => true
  | _ => false

/-- Parts of tables and pages that have no place in the body. -/
def isMisplaced : Tag → Bool
  | .caption | .col | .colgroup | .frame | .head | .tbody | .td | .tfoot | .th | .thead | .tr => true
  | _ => false

/-- Is this the start tag of a control that is not shown? -/
def isHiddenControl (attrs : List Attr) : Bool :=
  (attrs.find? fun a => a.name == "type".toList).any fun a =>
    Text.asciiLower a.value == "hidden".toList

/-! ## Start tags -/

/-- The item that a new item of the same list closes. -/
def openItem? (isItem : Tag → Bool) : List Open → Option Tag
  | [] => none
  | o :: os =>
    if o.name.htmlIn isItem then some o.name.tag
    else if o.name.htmlIn fun t => t.isSpecial && t != .address && t != .div && t != .p then none
    else openItem? isItem os

/-- Begins an item of a list. -/
def insertItem (b : Builder) (isItem : Tag → Bool) (tag : Tag) (attrs : List Attr) : Builder :=
  let b := b.fixBody
  let b :=
    match openItem? isItem b.opens with
    | some item => (b.closeImpliedExcept item).closeThrough item
    | none => b
  b.closeParagraph.insertHtml tag attrs

/-- Begins embedded drawing or formula content. -/
def insertForeign (b : Builder) (space : Space) (tag : Tag) (attrs : List Attr) (selfClosing : Bool) :
    Builder :=
  b.insert ⟨space, tag⟩ attrs (!selfClosing)

/-- Turns a page whose body has no real content yet into a set of frames. -/
def becomeFrameset (b : Builder) (attrs : List Attr) : Builder :=
  match b.framesetOk, b.bodyOpen? with
  | true, some body =>
    let b := { b with doc := b.doc.detach body.id, opens := b.rootOpen?.toList }
    (b.insertHtml .frameset attrs).toStage .inFrameset
  | _, _ => b

/-- The stage of a selection list that begins now. -/
def selectStageFrom : Stage → Stage
  | .inTable | .inCaption | .inTableBody | .inRow | .inCell => .inSelectInTable
  | _ => .inSelect

/-- A start tag in the body. -/
def bodyStart (b : Builder) (tag : Tag) (attrs : List Attr) (selfClosing : Bool) : Outcome :=
  match tag with
  | .html => .done (b.addToRoot attrs)
  | .body =>
    match b.bodyOpen? with
    | some body =>
      if b.hasOpen .template then .done b
      else .done { b.fixBody with doc := b.doc.addMissingAttrs body.id attrs }
    | none => .done b
  | .frameset => .done (b.becomeFrameset attrs)
  | .pre | .listing =>
    .done { (b.closeParagraph.insertHtml tag attrs).fixBody with skipNewline := true }
  | .form =>
    if b.form.isSome && !b.hasOpen .template then .done b
    else
      let b := b.closeParagraph
      let b := if b.hasOpen .template then b else { b with form := some b.doc.size }
      .done (b.insertHtml .form attrs)
  | .li => .done (b.insertItem (· == .li) tag attrs)
  | .dd | .dt => .done (b.insertItem (fun t => t == .dd || t == .dt) tag attrs)
  | .plaintext => .done { b.closeParagraph.insertHtml tag attrs with lexer := .plain }
  | .button =>
    let b :=
      if b.inScope Name.endsScope .button then (b.closeImplied Tag.mayBeUnclosed).closeThrough .button
      else b
    .done (b.reopenFormatting.insertHtml tag attrs).fixBody
  | .a => .done (b.closeOpenLink.reopenFormatting.insertFormatting tag attrs)
  | .nobr =>
    let b := b.reopenFormatting
    let b := if b.inScope Name.endsScope .nobr then (b.closeFormatting .nobr).reopenFormatting else b
    .done (b.insertFormatting tag attrs)
  | .applet | .marquee | .object =>
    .done ((b.reopenFormatting.insertHtml tag attrs).markFormatting.fixBody)
  | .table =>
    let b := if b.isOld then b else b.closeParagraph
    .done ((b.insertHtml tag attrs).fixBody.toStage .inTable)
  | .input =>
    let b := b.reopenFormatting.insertVoid tag attrs
    .done (if isHiddenControl attrs then b else b.fixBody)
  | .param | .source | .track => .done (b.insertVoid tag attrs)
  | .hr => .done (b.closeParagraph.insertVoid tag attrs).fixBody
  | .image => .done (b.reopenFormatting.insertVoid .img attrs).fixBody
  | .textarea =>
    .done { b.fixBody.insertWithText tag attrs (.titled tag) with skipNewline := true }
  | .xmp => .done (b.closeParagraph.reopenFormatting.fixBody.insertWithText tag attrs (.raw tag))
  | .iframe => .done (b.fixBody.insertWithText tag attrs (.raw tag))
  | .noembed | .noscript => .done (b.insertWithText tag attrs (.raw tag))
  | .select =>
    let b := (b.reopenFormatting.insertHtml tag attrs).fixBody
    .done (b.toStage (selectStageFrom b.stage))
  | .optgroup | .option =>
    let b := if b.currentIs .option then b.pop else b
    .done (b.reopenFormatting.insertHtml tag attrs)
  | .rb | .rtc =>
    let b := if b.inScope Name.endsScope .ruby then b.closeImplied Tag.mayBeUnclosed else b
    .done (b.insertHtml tag attrs)
  | .rp | .rt =>
    let b := if b.inScope Name.endsScope .ruby then b.closeImpliedExcept .rtc else b
    .done (b.insertHtml tag attrs)
  | .math => .done (b.insertForeign .math tag attrs selfClosing)
  | .svg => .done (b.insertForeign .svg tag attrs selfClosing)
  | _ =>
    if belongsToHead tag then b.inHead (.startTag tag attrs selfClosing)
    else if isBlock tag then .done (b.closeParagraph.insertHtml tag attrs)
    else if tag.isHeading then
      let b := b.closeParagraph
      let b := if b.currentIn (Name.htmlIn Tag.isHeading) then b.pop else b
      .done (b.insertHtml tag attrs)
    else if isFormatting tag then .done (b.reopenFormatting.insertFormatting tag attrs)
    else if isVoidInline tag then .done (b.reopenFormatting.insertVoid tag attrs).fixBody
    else if isMisplaced tag then .done b
    else .done (b.reopenFormatting.insertHtml tag attrs)

/-! ## End tags -/

/-- The end tag of a form. -/
def closeForm (b : Builder) : Builder :=
  if b.hasOpen .template then
    if b.inScope Name.endsScope .form then (b.closeImplied Tag.mayBeUnclosed).closeThrough .form else b
  else
    match b.form with
    | none => b
    | some id =>
      let b := { b with form := none }
      if b.inScopeWith Name.endsScope (·.id == id) then
        (b.closeImplied Tag.mayBeUnclosed).removeOpen id
      else b

/-- An end tag in the body. -/
def bodyEnd (b : Builder) (tag : Tag) : Outcome :=
  match tag with
  | .template => .done b.closeTemplate
  | .body => .done (if b.inScope Name.endsScope .body then b.toStage .afterBody else b)
  | .html =>
    if b.inScope Name.endsScope .body then .again (b.toStage .afterBody) (.endTag tag) else .done b
  | .form => .done b.closeForm
  | .p =>
    if b.inScope Name.endsButtonScope .p then .done b.closeParagraph
    else .done (b.insertHtml .p []).closeParagraph
  | .li =>
    .done (if b.inScope Name.endsListScope .li then (b.closeImpliedExcept .li).closeThrough .li else b)
  | .dd | .dt =>
    .done (if b.inScope Name.endsScope tag then (b.closeImpliedExcept tag).closeThrough tag else b)
  | .a | .nobr => .done (b.closeFormatting tag)
  | .applet | .marquee | .object =>
    .done (if b.inScope Name.endsScope tag then
        ((b.closeImplied Tag.mayBeUnclosed).closeThrough tag).clearFormatting
      else b)
  | .br => b.bodyStart .br [] false
  | _ =>
    if isBlock tag || tag == .button || tag == .listing || tag == .pre then
      .done (if b.inScope Name.endsScope tag then
          (b.closeImplied Tag.mayBeUnclosed).closeThrough tag
        else b)
    else if tag.isHeading then
      .done (if b.inScopeWith Name.endsScope fun o => o.name.htmlIn Tag.isHeading then
          (b.closeImplied Tag.mayBeUnclosed).closeThroughWith (Name.htmlIn Tag.isHeading)
        else b)
    else if isFormatting tag then .done (b.closeFormatting tag)
    else .done (b.closeGeneric tag)

/-- In the body. -/
def inBody (b : Builder) (token : Token) : Outcome :=
  match token with
  | .text cs => .done (b.bodyText cs)
  | .startTag tag attrs selfClosing => b.bodyStart tag attrs selfClosing
  | .endTag tag => b.bodyEnd tag
  | .comment => .done b.insertComment
  | .null | .doctype _ | .fault => .done b

end DocStub.Markup.Builder

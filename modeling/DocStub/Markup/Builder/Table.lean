/-
  Tables and selection lists.

  1. **Parts** — a table holds captions, columns and sections, a section rows, a row cells.  A start tag
     of a part closes what stands in its way and supplies the parts that were left out.
  2. **Strays** — content that a table does not admit is read as content of the body and placed in front
     of the table (`fostered`).  Text directly in a table is collected first (`tableText`): if it is all
     blank it stays where it is, otherwise it is fostered as a whole (`placeTableText`).
  3. **Selection lists** — hold options and groups, and little else.
-/
import DocStub.Markup.Builder.Body

namespace DocStub.Markup.Builder

open Lexer (isSpace)

/-! ## Strays -/

/-- Reads a token as content of the body, in front of the table. -/
def fostered (b : Builder) (token : Token) : Outcome :=
  match inBody { b with fostering := true } token with
  | .done b => .done { b with fostering := false }
  | .again b t => .again { b with fostering := false } t

/-- Places the text that was found directly in a table. -/
def placeTableText (b : Builder) : Builder :=
  match b.tableText with
  | none => b
  | some runs =>
    let b := { b with tableText := none }
    if runs.all (·.all isSpace) then runs.foldl insertText b
    else { runs.foldl bodyText { b with fostering := true } with fostering := false }

/-! ## Families of tags -/

/-- The sections of a table. -/
def isSection : Tag → Bool
  | .tbody | .tfoot | .thead => true
  | _ => false

/-- Tags that end a caption. -/
def endsCaption : Tag → Bool
  | .caption | .col | .colgroup | .tbody | .td | .tfoot | .th | .thead | .tr => true
  | _ => false

/-- Tags that end a section. -/
def endsSection : Tag → Bool
  | .caption | .col | .colgroup | .tbody | .tfoot | .thead => true
  | _ => false

/-- Tags that end a selection list inside a table. -/
def endsSelect : Tag → Bool
  | .caption | .table | .tbody | .tfoot | .thead | .tr | .td | .th => true
  | _ => false

/-- End tags that mean nothing in a table, its sections, rows and cells, one after the other longer. -/
def isStrayCellEnd : Tag → Bool
  | .body | .caption | .col | .colgroup | .html => true
  | _ => false

def isStrayRowEnd (tag : Tag) : Bool := isStrayCellEnd tag || tag == .td || tag == .th

def isStraySectionEnd (tag : Tag) : Bool := isStrayRowEnd tag || tag == .tr

def isStrayTableEnd (tag : Tag) : Bool := isStraySectionEnd tag || isSection tag

/-! ## The table itself -/

/-- Directly in a table. -/
def inTable (b : Builder) (token : Token) : Outcome :=
  match token with
  | .text cs =>
    if b.currentIn Name.rejectsText then .done { b with tableText := some [cs] }
    else b.fostered token
  | .null => .done b
  | .comment => .done b.insertComment
  | .startTag tag attrs _ =>
    let ready := b.closeTo Name.holdsSections
    match tag with
    | .caption => .done ((ready.markFormatting.insertHtml tag attrs).toStage .inCaption)
    | .colgroup => .done ((ready.insertHtml tag attrs).toStage .inColumnGroup)
    | .col => .again ((ready.insertHtml .colgroup []).toStage .inColumnGroup) token
    | .tbody | .tfoot | .thead => .done ((ready.insertHtml tag attrs).toStage .inTableBody)
    | .td | .th | .tr => .again ((ready.insertHtml .tbody []).toStage .inTableBody) token
    | .table =>
      if b.inScope Name.endsTableScope .table then .again (b.closeThrough .table).resetStage token
      else .done b
    | .style | .script | .template => b.inHead token
    | .input =>
      if isHiddenControl attrs then .done (b.insertVoid tag attrs) else b.fostered token
    | .form =>
      if b.hasOpen .template || b.form.isSome then .done b
      else .done ({ b with form := some b.doc.size }.insertVoid tag attrs)
    | _ => b.fostered token
  | .endTag tag =>
    if tag == .table then
      .done (if b.inScope Name.endsTableScope .table then (b.closeThrough .table).resetStage else b)
    else if isStrayTableEnd tag then .done b
    else if tag == .template then b.inHead token
    else b.fostered token
  | t => b.fostered t

/-! ## Captions and columns -/

/-- Ends the caption. -/
def closeCaption (b : Builder) : Builder :=
  (((b.closeImplied Tag.mayBeUnclosed).closeThrough .caption).clearFormatting).toStage .inTable

/-- In a caption. -/
def inCaption (b : Builder) (token : Token) : Outcome :=
  let isOpen := b.inScope Name.endsTableScope .caption
  match token with
  | .startTag tag _ _ =>
    if endsCaption tag then if isOpen then .again b.closeCaption token else .done b
    else b.inBody token
  | .endTag tag =>
    if tag == .caption then .done (if isOpen then b.closeCaption else b)
    else if tag == .table then if isOpen then .again b.closeCaption token else .done b
    else if isStrayTableEnd tag then .done b
    else b.inBody token
  | t => b.inBody t

/-- In a group of columns. -/
def inColumnGroup (b : Builder) (token : Token) : Outcome :=
  let isOpen := b.currentIs .colgroup
  let leave (token : Token) : Outcome :=
    if isOpen then .again (b.pop.toStage .inTable) token else .done b
  match token with
  | .text cs =>
    if isOpen then splitText b.insertText (fun b => b.pop.toStage .inTable) cs
    else .done (b.insertText (cs.filter isSpace))
  | .comment => .done b.insertComment
  | .startTag .html attrs _ => .done (b.addToRoot attrs)
  | .startTag .col attrs _ => .done (b.insertVoid .col attrs)
  | .startTag .template _ _ => b.inHead token
  | .endTag .colgroup => .done (if isOpen then b.pop.toStage .inTable else b)
  | .endTag .col => .done b
  | .endTag .template => b.inHead token
  | t => leave t

/-! ## Sections, rows and cells -/

/-- In a section of a table. -/
def inTableBody (b : Builder) (token : Token) : Outcome :=
  let ready := b.closeTo Name.holdsRows
  let isOpen := b.inScopeWith Name.endsTableScope fun o =>
    o.name.htmlIn fun | .table | .tbody | .tfoot => true | _ => false
  let leave : Outcome := if isOpen then .again (ready.pop.toStage .inTable) token else .done b
  match token with
  | .startTag tag attrs _ =>
    match tag with
    | .tr => .done ((ready.insertHtml tag attrs).toStage .inRow)
    | .th | .td => .again ((ready.insertHtml .tr []).toStage .inRow) token
    | _ => if endsSection tag then leave else b.inTable token
  | .endTag tag =>
    if isSection tag then
      .done (if b.inScope Name.endsTableScope tag then ready.pop.toStage .inTable else b)
    else if tag == .table then leave
    else if isStraySectionEnd tag then .done b
    else b.inTable token
  | t => b.inTable t

/-- In a row of a table. -/
def inRow (b : Builder) (token : Token) : Outcome :=
  let ready := b.closeTo Name.holdsCells
  let isOpen := b.inScope Name.endsTableScope .tr
  let closed := ready.pop.toStage .inTableBody
  match token with
  | .startTag tag attrs _ =>
    match tag with
    | .th | .td => .done (((ready.insertHtml tag attrs).toStage .inCell).markFormatting)
    | _ =>
      if endsSection tag || tag == .tr then if isOpen then .again closed token else .done b
      else b.inTable token
  | .endTag tag =>
    if tag == .tr then .done (if isOpen then closed else b)
    else if tag == .table then if isOpen then .again closed token else .done b
    else if isSection tag then
      if b.inScope Name.endsTableScope tag && isOpen then .again closed token else .done b
    else if isStrayRowEnd tag then .done b
    else b.inTable token
  | t => b.inTable t

/-- Ends the cell. -/
def closeCell (b : Builder) : Builder :=
  (((b.closeImplied Tag.mayBeUnclosed).closeThroughWith Name.isCell).clearFormatting).toStage .inRow

/-- In a cell of a table. -/
def inCell (b : Builder) (token : Token) : Outcome :=
  match token with
  | .startTag tag _ _ =>
    if endsCaption tag then
      if b.inScopeWith Name.endsTableScope (·.name.isCell) then .again b.closeCell token else .done b
    else b.inBody token
  | .endTag tag =>
    if tag == .td || tag == .th then
      .done (if b.inScope Name.endsTableScope tag then
          (((b.closeImplied Tag.mayBeUnclosed).closeThrough tag).clearFormatting).toStage .inRow
        else b)
    else if isStrayCellEnd tag then .done b
    else if tag == .table || isSection tag || tag == .tr then
      if b.inScope Name.endsTableScope tag then .again b.closeCell token else .done b
    else b.inBody token
  | t => b.inBody t

/-! ## Selection lists -/

/-- In a selection list. -/
def inSelect (b : Builder) (token : Token) : Outcome :=
  let isOpen := b.inScope Name.endsSelectScope .select
  let popOption (b : Builder) : Builder := if b.currentIs .option then b.pop else b
  let popGroup (b : Builder) : Builder := if b.currentIs .optgroup then b.pop else b
  match token with
  | .text cs => .done (b.insertText cs)
  | .comment => .done b.insertComment
  | .startTag tag attrs _ =>
    match tag with
    | .html => .done (b.addToRoot attrs)
    | .option => .done ((popOption b).insertHtml tag attrs)
    | .optgroup => .done ((popGroup (popOption b)).insertHtml tag attrs)
    | .hr => .done ((popGroup (popOption b)).insertVoid tag attrs)
    | .select => .done (if isOpen then (b.closeThrough .select).resetStage else b)
    | .input | .keygen | .textarea =>
      if isOpen then .again (b.closeThrough .select).resetStage token else .done b
    | .script | .template => b.inHead token
    | _ => .done b
  | .endTag tag =>
    match tag with
    | .optgroup =>
      let insideGroup := (b.opens.drop 1).head?.any (·.name.isHtml .optgroup)
      .done (popGroup (if insideGroup then popOption b else b))
    | .option => .done (popOption b)
    | .select => .done (if isOpen then (b.closeThrough .select).resetStage else b)
    | .template => b.inHead token
    | _ => .done b
  | _ => .done b

/-- In a selection list inside a table. -/
def inSelectInTable (b : Builder) (token : Token) : Outcome :=
  match token with
  | .startTag tag _ _ =>
    if endsSelect tag then .again (b.closeThrough .select).resetStage token else b.inSelect token
  | .endTag tag =>
    if endsSelect tag then
      if b.inScope Name.endsTableScope tag then .again (b.closeThrough .select).resetStage token
      else .done b
    else b.inSelect token
  | t => b.inSelect t

end DocStub.Markup.Builder

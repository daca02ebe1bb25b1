/-
  From the text of a page to its document.

  1. **Steps** — `inStage` reads a token by the rules of the present stage; `settle` repeats that until
     the token is used up.
  2. **Tokens** — `take` deals with one token of the reader: the newline after certain start tags, text
     directly in tables, and all else by `settle`.
  3. **Pages** — `run` alternates between reader and builder, since each decides how the other goes on;
     `document` is the document of a page.
-/
import DocStub.Markup.Builder.Foreign

namespace DocStub.Markup

namespace Builder

open Lexer (isSpace)

/-! ## The remaining stages -/

/-- In the text of a title, style or script. -/
def inText (b : Builder) (token : Token) : Outcome :=
  match token with
  | .text cs => .done (b.insertText cs)
  | .endTag _ => .done { b.pop with stage := b.resume, lexer := .data }
  | _ => .done b

/-- The stage that a start tag directly in a template stands for. -/
def templateStage : Tag → Stage
  | .caption | .colgroup | .tbody | .tfoot | .thead => .inTable
  | .col => .inColumnGroup
  | .tr => .inTableBody
  | .td | .th => .inRow
  | _ => .inBody

/-- Directly in a template. -/
def inTemplate (b : Builder) (token : Token) : Outcome :=
  match token with
  | .text _ | .comment => b.inBody token
  | .startTag tag _ _ =>
    if belongsToHead tag then b.inHead token
    else
      let stage := templateStage tag
      .again { b with templates := stage :: b.templates.drop 1, stage := stage } token
  | .endTag .template => b.inHead token
  | _ => .done b

/-- After the body: anything but blanks goes back into it. -/
def inAfterBody (b : Builder) (token : Token) : Outcome :=
  match token with
  | .text cs => splitText b.bodyText (·.toStage .inBody) cs
  | .comment => .done b
  | .startTag .html attrs _ => .done (b.addToRoot attrs)
  | .endTag .html => .done (b.toStage .afterAfterBody)
  | t => .again (b.toStage .inBody) t

/-- In a set of frames: only blanks count as text. -/
def inFrameset (b : Builder) (token : Token) : Outcome :=
  match token with
  | .text cs => .done (b.insertText (cs.filter isSpace))
  | .comment => .done b.insertComment
  | .startTag .html attrs _ => .done (b.addToRoot attrs)
  | .startTag .frameset attrs _ => .done (b.insertHtml .frameset attrs)
  | .startTag .frame attrs _ => .done (b.insertVoid .frame attrs)
  | .startTag .noframes _ _ => b.inHead token
  | .endTag .frameset =>
    if b.opens.length = 1 then .done b
    else
      let b := b.pop
      .done (if b.currentIs .frameset then b else b.toStage .afterFrameset)
  | _ => .done b

/-- After the frames. -/
def inAfterFrameset (b : Builder) (token : Token) : Outcome :=
  match token with
  | .text cs => .done (b.insertText (cs.filter isSpace))
  | .comment => .done b.insertComment
  | .startTag .html attrs _ => .done (b.addToRoot attrs)
  | .startTag .noframes _ _ => b.inHead token
  | .endTag .html => .done (b.toStage .afterAfterFrameset)
  | _ => .done b

/-- After the root of a page with a body. -/
def inAfterAfterBody (b : Builder) (token : Token) : Outcome :=
  match token with
  | .text cs => splitText b.bodyText (·.toStage .inBody) cs
  | .comment => .done b
  | .startTag .html attrs _ => .done (b.addToRoot attrs)
  | t => .again (b.toStage .inBody) t

/-- After the root of a page with frames. -/
def inAfterAfterFrameset (b : Builder) (token : Token) : Outcome :=
  match token with
  | .text cs => .done (b.bodyText (cs.filter isSpace))
  | .startTag .html attrs _ => .done (b.addToRoot attrs)
  | .startTag .noframes _ _ => b.inHead token
  | _ => .done b

/-! ## Steps -/

/-- Reads a token by the rules of the present stage. -/
def inStage (b : Builder) (token : Token) : Outcome :=
  match b.stage with
  | .initial => b.inInitial token
  | .beforeHtml => b.inBeforeHtml token
  | .beforeHead => b.inBeforeHead token
  | .inHead => b.inHead token
  | .afterHead => b.inAfterHead token
  | .inBody => b.inBody token
  | .inText => b.inText token
  | .inTable => b.inTable token
  | .inCaption => b.inCaption token
  | .inColumnGroup => b.inColumnGroup token
  | .inTableBody => b.inTableBody token
  | .inRow => b.inRow token
  | .inCell => b.inCell token
  | .inSelect => b.inSelect token
  | .inSelectInTable => b.inSelectInTable token
  | .inTemplate => b.inTemplate token
  | .afterBody => b.inAfterBody token
  | .inFrameset => b.inFrameset token
  | .afterFrameset => b.inAfterFrameset token
  | .afterAfterBody => b.inAfterAfterBody token
  | .afterAfterFrameset => b.inAfterAfterFrameset token

/-- Reads a token by the rules for embedded content or those of the present stage. -/
def step (b : Builder) (token : Token) : Outcome :=
  if b.isForeign token then inForeign inStage b token else b.inStage token

/-- Takes steps until the token is used up, at most so many. -/
def settleIn : Nat → Builder → Token → Builder
  | 0, b, _ => b
  | steps + 1, b, token =>
    match b.step token with
    | .done b => b
    | .again b token => settleIn steps b token

/-- Deals with a token.  A step that leaves the token closes an element or goes to a later stage, so the
    number of elements bounds the number of steps. -/
def settle (b : Builder) (token : Token) : Builder := settleIn (2 * b.doc.size + 16) b token

/-! ## Tokens -/

/-- Deals with a text of the reader. -/
def takeText (b : Builder) (cs : Text) : Builder :=
  match b.tableText, cs with
  | _, [] => b
  | some runs, cs => { b with tableText := some (runs ++ [cs]) }
  | none, cs => b.settle (.text cs)

/-- Deals with a token of the reader. -/
def take (b : Builder) (token : Token) : Builder :=
  let skips := b.skipNewline
  let b := { b with skipNewline := false }
  match token with
  | .fault => b
  | .doctype _ => if b.stage == .initial then b.settle token else b
  | .text ('\n' :: cs) => if skips then b.takeText cs else b.takeText ('\n' :: cs)
  | .text cs => b.takeText cs
  | .null => if b.tableText.isSome then b else b.settle token
  | _ => b.placeTableText.settle token

/-! ## Pages -/

/-- May a verbatim section begin here? -/
def allowsVerbatim (b : Builder) : Bool := b.opens.head?.any (·.name.space != .html)

/-- The end of a script may be followed by a byte order mark, as the beginning of a page may. -/
def afterTokens (mode : Lexer.Mode) (tokens : List Token) (rest : Text) : Text :=
  if mode == .script && tokens == [.endTag .script] then Lexer.dropByteOrderMark rest else rest

/-- Behind a script a byte order mark may be skipped, so the rest does not get longer. -/
theorem length_afterTokens_le (mode : Lexer.Mode) (tokens : List Token) (rest : Text) :
    (afterTokens mode tokens rest).length ≤ rest.length := by
  unfold afterTokens
  split
  · cases rest with
    | nil => exact Nat.le_refl _
    | cons c r => simp only [Lexer.dropByteOrderMark, List.length_cons]; split <;> simp
  · exact Nat.le_refl _

/-- Reads the input to its end. -/
def run (b : Builder) (input : Text) : Builder :=
  match _h : Lexer.next? b.lexer b.allowsVerbatim input with
  | none => b.placeTableText
  | some (tokens, rest) => run (tokens.foldl take b) (afterTokens b.lexer tokens rest)
  termination_by input.length
  decreasing_by
    have := Lexer.length_lt_of_next? _h
    have := length_afterTokens_le b.lexer tokens rest
    omega

end Builder

/-- The document that a page describes. -/
def document (page : Text) : Document :=
  (Builder.run {} (Lexer.unifyNewlines (Lexer.dropByteOrderMark page))).doc

end DocStub.Markup

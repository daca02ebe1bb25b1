/-
  Embedded drawings and formulas.

  Inside them every start tag makes an element of the same language, until a tag of the page language
  ends the embedded content, or an element is reached that holds page content again.
-/
import DocStub.Markup.Builder.Table

namespace DocStub.Markup.Builder

open Lexer (isSpace)

/-- Is the token read by the rules for embedded content? -/
def isForeign (b : Builder) (token : Token) : Bool :=
  match b.opens.head? with
  | none => false
  | some o =>
    if o.name.space == .html then false
    else
      match token with
      | .text _ | .null => !(o.name.holdsFormulaText || o.name.holdsPageContent)
      | .startTag tag _ _ =>
        if o.name.holdsPageContent then false
        else if o.name.holdsFormulaText then tag == .mglyph || tag == .malignmark
        else !(o.name == ⟨.math, .annotationXml⟩ && tag == .svg)
      | _ => true

/-- Is the start tag one of the page language? -/
def leavesForeign (tag : Tag) (attrs : List Attr) : Bool :=
  tag.leavesForeign
    || (tag == .font && attrs.any fun a =>
          a.name == "color".toList || a.name == "face".toList || a.name == "size".toList)

/-- Ends the embedded content, up to an element that holds page content. -/
def leaveForeign (b : Builder) : Builder :=
  b.closeTo fun n => n.space == .html || n.holdsFormulaText || n.holdsPageContent

/-- What an end tag in embedded content does. -/
inductive ForeignEnd where
  | closes (outside : List Open)
  | isOrdinary
  | isIgnored

/-- Looks for the element of an end tag, from the inside out; `inside` is false for the innermost. -/
def foreignEnd (tag : Tag) (inside : Bool) : List Open → ForeignEnd
  | [] | [_] => .isIgnored
  | o :: os =>
    if inside && o.name.space == .html then .isOrdinary
    else if o.name.tag == tag then .closes os
    else foreignEnd tag true os

/-- In embedded content; `ordinary` reads a token by the rules of the page language. -/
def inForeign (ordinary : Builder → Token → Outcome) (b : Builder) (token : Token) : Outcome :=
  match token with
  | .null => .done (b.insertText [CharRef.replacement])
  | .text cs => .done ((if cs.all isSpace then b else b.fixBody).insertText cs)
  | .comment => .done b.insertComment
  | .startTag tag attrs selfClosing =>
    if leavesForeign tag attrs then ordinary b.leaveForeign token
    else
      let space := (b.opens.head?.map (·.name.space)).getD .html
      .done (b.insertForeign space tag attrs selfClosing)
  | .endTag tag =>
    if tag == .br || tag == .p then ordinary b.leaveForeign token
    else
      match foreignEnd tag false b.opens with
      | .closes outside => .done { b with opens := outside }
      | .isOrdinary => ordinary b token
      | .isIgnored => .done b
  | _ => .done b

end DocStub.Markup.Builder

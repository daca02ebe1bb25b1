/-
  Finding elements of a document.

  1. **Labels** — what a test can see of an element: its tag and its attributes.
  2. **Places** — a `Place` is an element in its document.
  3. **Selectors** — a `Selector` asks for an element, by tag or class, inside others.  The elements
     around an element are found by way of the parents that the nodes name.
-/
import DocStub.Markup.Walk
import DocStub.Text.Blank

namespace DocStub.Markup

/-! ## Labels -/

/-- What a selector can see of an element. -/
structure Label where
  tag : Tag
  attrs : List Attr
  deriving DecidableEq, Repr

namespace Label

/-- The value of the attribute `name`. -/
def attr? (l : Label) (name : String) : Option Text :=
  (l.attrs.find? fun a => a.name == name.toList).map (·.value)

/-- The words of the attribute `class`. -/
def classes (l : Label) : List Text := ((l.attr? "class").map Text.words).getD []

end Label

/-- The label of a node, if it is an element. -/
def Document.label? (d : Document) (id : Nat) : Option Label :=
  d.nodes[id]?.bind fun n =>
    match n.content with
    | .element name attrs => some ⟨name.tag, attrs⟩
    | _ => none

/-! ## Places -/

/-- An element in its document. -/
structure Place where
  document : Document
  id : Nat

namespace Place

/-- All text of the element. -/
def text (p : Place) : Text := p.document.text p.id

/-- The value of the attribute `name`. -/
def attr? (p : Place) (name : String) : Option Text := (p.document.label? p.id).bind (·.attr? name)

end Place

/-! ## Selectors -/

/-- A test of one label: its tag, its class, or both. -/
structure Simple where
  tag : Option Tag
  className : Option String

/-- Elements that pass `target` and stand inside elements that pass the tests of `around`, innermost
    first. -/
structure Selector where
  target : Simple
  around : List Simple

/-- Does a label pass the test? -/
def Simple.passes (s : Simple) (l : Label) : Bool :=
  s.tag.all (· == l.tag) && s.className.all fun c => l.classes.contains c.toList

namespace Selector

/-- Do the elements around a node, from the inside out, contain ones that pass `tests` in turn?  At most
    so many of them are looked at; any other node cuts the chain. -/
def passAround (d : Document) : Nat → List Simple → Nat → Bool
  | _, [], _ => true
  | 0, _ :: _, _ => false
  | steps + 1, s :: ss, id =>
    match d.parent? id with
    | none => false
    | some above =>
      match d.label? above with
      | none => false
      | some l => if s.passes l then passAround d steps ss above else passAround d steps (s :: ss) above

/-- Is this a node the selector asks for? -/
def selects (s : Selector) (d : Document) (id : Nat) : Bool :=
  (d.label? id).any s.target.passes && passAround d d.size s.around id

/-- The places in the content of `p` that the selector asks for, in document order. -/
def below (s : Selector) (p : Place) : List Place :=
  ((p.document.walk p.id).tail.filter (s.selects p.document)).map (Place.mk p.document)

/-- The places of a document that the selector asks for, in the order in which they came into being.  An
    element that stands nowhere is none of them. -/
def inDocument (s : Selector) (d : Document) : List Place :=
  ((List.range d.size).filter fun id => (d.parent? id).isSome && s.selects d id).map (Place.mk d)

end Selector

end DocStub.Markup

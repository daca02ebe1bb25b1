/-
  Walks through a document.

  A walk goes around the content of a node.  It enters the node, goes through its children one after the
  other, and leaves it.  It follows the links that the nodes name: at the end of a row of children it
  leaves the parent of the last child, and it ends where it leaves the node that it began with.

  1. **Order** — `Document.walk` lists the nodes that are entered, which is document order.
  2. **Text** — `Document.text` is all text that a walk comes to.
-/
import DocStub.Markup.Document

namespace DocStub.Markup

/-- A moment of a walk. -/
inductive Visit where
  | enter (id : Nat)
  | leave (id : Nat)
  deriving DecidableEq, Repr

namespace Document

/-- What follows a moment of the walk around `top`. -/
def following (d : Document) (top : Nat) : Visit → Option Visit
  | .enter id => some (((d.firstChild? id).map Visit.enter).getD (.leave id))
  | .leave id =>
    if id = top then none
    else
      match d.next? id with
      | some sibling => some (.enter sibling)
      | none => (d.parent? id).map .leave

/-- The nodes entered so far, the latest first, after at most so many more moments. -/
def walkOn (d : Document) (top : Nat) : Nat → Visit → List Nat → List Nat
  | 0, _, seen => seen
  | moments + 1, visit, seen =>
    let seen :=
      match visit with
      | .enter id => id :: seen
      | .leave _ => seen
    match d.following top visit with
    | some next => walkOn d top moments next seen
    | none => seen

/-- The nodes in the content of `top`, itself first, in document order.  A walk that ends comes to no
    moment twice, and each node has two of them. -/
def walk (d : Document) (top : Nat) : List Nat :=
  (d.walkOn top (2 * d.size) (.enter top) []).reverse

/-- The text that stands in one node itself. -/
def ownText (d : Document) (id : Nat) : Text :=
  match d.nodes[id]? with
  | some ⟨.text pieces, _, _, _, _⟩ => pieces.reverse.flatten
  | _ => []

/-- All text in a node, in document order. -/
def text (d : Document) (id : Nat) : Text := (d.walk id).flatMap d.ownText

end Document

end DocStub.Markup

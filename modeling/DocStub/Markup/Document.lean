/-
  A document: nodes and the links between them.

  1. **Nodes** — every node has a number, its place in `nodes`; a later node has a higher number.
  2. **Links** — a node names its parent, its two neighbours, and the two ends of the row of its
     children.  Nodes are moved by changing links (`append`, `insertBefore`, `detach`), so that misplaced
     content can be put right.
  3. **Rows of children** — a whole row changes hands at its ends (`adoptChildren`): the nodes in the
     middle keep naming the parent they had.
  4. **Text** — text behind text continues the same node.
-/
import DocStub.Markup.Token

namespace DocStub.Markup

/-- What a node is.  A fragment holds what stands inside a template; a text is kept in pieces, the latest
    first. -/
inductive Content where
  | document
  | fragment
  | comment
  | text (pieces : List Text)
  | element (name : Name) (attrs : List Attr)
  deriving DecidableEq, Repr

/-- The first and the last of a row of children. -/
structure Ends where
  first : Nat
  last : Nat
  deriving DecidableEq, Repr

/-- A node with its links. -/
structure Node where
  content : Content
  parent : Option Nat := none
  previous : Option Nat := none
  next : Option Nat := none
  children : Option Ends := none
  deriving DecidableEq, Repr

namespace Ends

/-- A row of children behind which the child `id` is put. -/
def push (row : Option Ends) (id : Nat) : Ends := ⟨(row.map (·.first)).getD id, id⟩

/-- A row of children in which `id` is put before the child `sibling`. -/
def insertBefore (row : Ends) (sibling id : Nat) : Ends :=
  if row.first = sibling then { row with first := id } else row

/-- A row of children that the child `id`, between `previous` and `next`, leaves. -/
def erase (row : Ends) (id : Nat) (previous next : Option Nat) : Option Ends :=
  if row.first = row.last then none
  else if row.first = id then next.map fun n => { row with first := n }
  else if row.last = id then previous.map fun p => { row with last := p }
  else some row

end Ends

/-- The nodes of a document.  Node 0 is the document itself. -/
structure Document where
  nodes : Array Node

namespace Document

/-- The number of the document node. -/
def root : Nat := 0

/-- A document without content. -/
def empty : Document := ⟨#[⟨.document, none, none, none, none⟩]⟩

/-- The number of nodes, which is the number that a new node gets. -/
def size (d : Document) : Nat := d.nodes.size

/-! ## Reading links -/

def parent? (d : Document) (id : Nat) : Option Nat := d.nodes[id]?.bind (·.parent)

def previous? (d : Document) (id : Nat) : Option Nat := d.nodes[id]?.bind (·.previous)

def next? (d : Document) (id : Nat) : Option Nat := d.nodes[id]?.bind (·.next)

def firstChild? (d : Document) (id : Nat) : Option Nat :=
  d.nodes[id]?.bind fun n => n.children.map (·.first)

def lastChild? (d : Document) (id : Nat) : Option Nat :=
  d.nodes[id]?.bind fun n => n.children.map (·.last)

/-- Is this node, if there is one, a text? -/
def isText (d : Document) (id : Nat) : Bool :=
  d.nodes[id]?.any fun n =>
    match n.content with
    | .text _ => true
    | _ => false

/-! ## Changing nodes -/

/-- Changes one node. -/
def modify (d : Document) (id : Nat) (f : Node → Node) : Document := ⟨d.nodes.modify id f⟩

/-- Changes one node, if there is one. -/
def modifyIf (d : Document) (id : Option Nat) (f : Node → Node) : Document :=
  match id with
  | some id => d.modify id f
  | none => d

/-- Adds a node that stands nowhere yet; its number is the size of `d`. -/
def add (d : Document) (content : Content) : Document :=
  ⟨d.nodes.push ⟨content, none, none, none, none⟩⟩

/-! ## Moving nodes -/

/-- Takes a node out of its parent. -/
def detach (d : Document) (id : Nat) : Document :=
  match d.nodes[id]? with
  | some ⟨_, some above, previous, next, _⟩ =>
    let d := d.modify id fun n => { n with parent := none, previous := none, next := none }
    let d := d.modifyIf previous fun n => { n with next := next }
    let d := d.modifyIf next fun n => { n with previous := previous }
    d.modify above fun n => { n with children := n.children.bind (·.erase id previous next) }
  | _ => d

/-- Makes a node the last child of `above`. -/
def append (d : Document) (above id : Nat) : Document :=
  let d := d.detach id
  let last := d.lastChild? above
  let d := d.modify id fun n => { n with parent := some above, previous := last }
  let d := d.modifyIf last fun n => { n with next := some id }
  d.modify above fun n => { n with children := some (.push n.children id) }

/-- Puts a node directly before its new sibling, which has a parent. -/
def insertBefore (d : Document) (sibling id : Nat) : Document :=
  let d := d.detach id
  match d.nodes[sibling]? with
  | some ⟨_, some above, previous, _, _⟩ =>
    let d := d.modify id fun n =>
      { n with parent := some above, previous := previous, next := some sibling }
    let d := d.modifyIf previous fun n => { n with next := some id }
    let d := d.modify sibling fun n => { n with previous := some id }
    d.modify above fun n => { n with children := n.children.map (·.insertBefore sibling id) }
  | _ => d

/-- Hands the row of children of `old` over to `new`, which has none.  Only the two ends of the row are
    told of it: a child in the middle still names `old` as its parent. -/
def adoptChildren (d : Document) (old new : Nat) : Document :=
  match d.nodes[old]? with
  | some ⟨_, _, _, _, some row⟩ =>
    let d := d.modify old fun n => { n with children := none }
    let d := d.modify row.first fun n => { n with parent := some new }
    let d := d.modify row.last fun n => { n with parent := some new }
    d.modify new fun n => { n with children := some row }
  | _ => d

/-! ## Text -/

/-- Lets a text go on. -/
def continueText (d : Document) (id : Nat) (cs : Text) : Document :=
  d.modify id fun n =>
    match n.content with
    | .text pieces => { n with content := .text (cs :: pieces) }
    | _ => n

/-- Adds text at the end of a node. -/
def appendText (d : Document) (above : Nat) (cs : Text) : Document :=
  match (d.lastChild? above).filter d.isText with
  | some last => d.continueText last cs
  | none =>
    let id := d.size
    (d.add (.text [cs])).append above id

/-- Puts text directly before a node. -/
def insertTextBefore (d : Document) (sibling : Nat) (cs : Text) : Document :=
  match (d.previous? sibling).filter d.isText with
  | some previous => d.continueText previous cs
  | none =>
    let id := d.size
    (d.add (.text [cs])).insertBefore sibling id

/-! ## Elements -/

/-- Adds an element that stands nowhere yet.  A template comes with the fragment of its content. -/
def addElement (d : Document) (name : Name) (attrs : List Attr) : Document :=
  let id := d.size
  let d := d.add (.element name attrs)
  if name.isHtml .template then (d.add .fragment).append id (id + 1) else d

/-- Where the content of a template goes. -/
def contentOf (d : Document) (id : Nat) : Nat := (d.firstChild? id).getD id

/-- Gives an element those of the attributes that it does not have. -/
def addMissingAttrs (d : Document) (id : Nat) (attrs : List Attr) : Document :=
  d.modify id fun n =>
    match n.content with
    | .element name old =>
      { n with content := .element name (old ++ attrs.filter fun a => !old.any (·.name == a.name)) }
    | _ => n

end Document

end DocStub.Markup

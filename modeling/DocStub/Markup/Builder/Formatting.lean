/-
  Formatting elements.

  A formatting element that was closed by the end of something else is opened again when text follows
  (`reopenFormatting`).  Its own end tag may come when other elements are still open; then the element is
  split so that the others keep their content (`closeFormatting`):

  1. the formatting element and the structural element furthest out inside it (the block) are found;
  2. the formatting elements between the two are copied, or closed when they are no longer listed or too
     many, and the block is moved into the innermost copy, and so on outwards (`copyBetween`);
  3. the result is put where the formatting element stood, and the content of the block goes into a copy
     of the formatting element inside the block (`split`).
-/
import DocStub.Markup.Builder.Basic

namespace DocStub.Markup.Builder

/-! ## Opening again -/

/-- Is the entry a border, or an element that is still open? -/
def isSettled (b : Builder) : Formatting → Bool
  | .marker => true
  | .element id _ _ => b.opens.any (·.id == id)

/-- Opens and lists a formatting element. -/
def insertListed (b : Builder) (tag : Tag) (attrs : List Attr) : Builder :=
  { b with formatting := .element b.doc.size tag attrs :: b.formatting }.insertHtml tag attrs

/-- Opens a copy of a formatting element. -/
def reopen (b : Builder) : Formatting → Builder
  | .marker => b
  | .element _ tag attrs => b.insertListed tag attrs

/-- Opens the formatting elements again that were closed since the last border or open element. -/
def reopenFormatting (b : Builder) : Builder :=
  let closed := b.formatting.takeWhile fun e => !b.isSettled e
  let settled := b.formatting.dropWhile fun e => !b.isSettled e
  closed.reverse.foldl reopen { b with formatting := settled }

/-- The same attributes, in any order. -/
def sameAttrs (a b : List Attr) : Bool := a.length == b.length && a.all b.contains

/-- Removes the earliest of three like entries since the last border. -/
def limitLike (tag : Tag) (attrs : List Attr) (entries : List Formatting) : List Formatting :=
  let recent := entries.takeWhile (·.isElement)
  let isLike : Formatting → Bool
    | .marker => false
    | .element _ t as => t == tag && sameAttrs as attrs
  if 3 ≤ recent.countP isLike then
    (recent.reverse.eraseP isLike).reverse ++ entries.dropWhile (·.isElement)
  else entries

/-- Opens a formatting element. -/
def insertFormatting (b : Builder) (tag : Tag) (attrs : List Attr) : Builder :=
  { b with formatting := limitLike tag attrs b.formatting }.insertListed tag attrs

/-! ## Closing -/

/-- The open elements after a generic end tag: it closes its element, unless a structural element stands
    in between. -/
def afterGenericEnd? (tag : Tag) : List Open → Option (List Open)
  | [] => none
  | o :: os =>
    if o.name.isHtml tag then some os
    else if o.name.htmlIn Tag.isSpecial then none
    else afterGenericEnd? tag os

/-- Closes an element without a rule of its own. -/
def closeGeneric (b : Builder) (tag : Tag) : Builder :=
  match afterGenericEnd? tag b.opens with
  | some os => { b with opens := os }
  | none => b

/-- The state while the elements between block and formatting element are gone through: the copies that
    stay open, outermost first, the node moved last, and the entry after which the formatting element's
    copy is to be listed. -/
structure Split where
  doc : Document
  formatting : List Formatting
  copies : List Open
  last : Nat
  listAfter : Option Nat
  count : Nat

/-- Goes through one element between block and formatting element. -/
def copyBetween (block : Nat) (s : Split) (o : Open) : Split :=
  let count := s.count + 1
  let s := { s with count := count }
  if 3 < count then { s with formatting := s.formatting.filter fun e => !e.isFor o.id }
  else
    match s.formatting.find? (·.isFor o.id) with
    | some (.element _ tag attrs) =>
      let id := s.doc.size
      { doc := (s.doc.addElement ⟨.html, tag⟩ attrs).append id s.last
        formatting := s.formatting.map fun e => if e.isFor o.id then .element id tag attrs else e
        copies := ⟨id, ⟨.html, tag⟩⟩ :: s.copies
        last := id
        listAfter := if s.last = block then some id else s.listAfter
        count := count }
    | _ => s

/-- Splits a formatting element around the block inside it.  The open elements are `inner`, `block`,
    `between`, the formatting element `fmt` and `outer`, from the inside out. -/
def split (b : Builder) (fmt : Open) (tag : Tag) (attrs : List Attr)
    (inner : List Open) (block : Open) (between outer : List Open) : Builder :=
  let s := between.foldl (copyBetween block.id)
    { doc := b.doc, formatting := b.formatting, copies := [], last := block.id, listAfter := none,
      count := 0 }
  let copies := s.copies.reverse
  let b := { b with doc := s.doc.detach s.last, opens := inner ++ block :: copies ++ fmt :: outer }
  let doc := put b.doc s.last (b.slot outer.head?)
  let id := doc.size
  let doc := ((doc.addElement ⟨.html, tag⟩ attrs).adoptChildren block.id id).append block.id id
  let entry := Formatting.element id tag attrs
  let entries :=
    match s.listAfter with
    | none => s.formatting.map fun e => if e.isFor fmt.id then entry else e
    | some mark =>
      (s.formatting.flatMap fun e => if e.isFor mark then [entry, e] else [e]).filter
        fun e => !e.isFor fmt.id
  { b with doc := doc, formatting := entries,
           opens := inner ++ ⟨id, ⟨.html, tag⟩⟩ :: block :: copies ++ outer }

/-- Closes the latest formatting element `tag`, at most so many times. -/
def closeFormattingLoop (tag : Tag) : Nat → Builder → Builder
  | 0, b => b
  | rounds + 1, b =>
    let isWanted : Formatting → Bool
      | .marker => false
      | .element _ t _ => t == tag
    match (b.formatting.takeWhile (·.isElement)).find? isWanted with
    | some (.element id tag attrs) =>
      let inside := b.opens.takeWhile (·.id != id)
      match b.opens.dropWhile (·.id != id) with
      | [] => { b with formatting := b.formatting.filter fun e => !e.isFor id }
      | fmt :: outer =>
        if !b.inScopeWith Name.endsScope (·.id == id) then b
        else
          let isPlain := fun o : Open => !o.name.htmlIn Tag.isSpecial
          match inside.reverse.dropWhile isPlain with
          | [] =>
            { b with opens := outer, formatting := b.formatting.filter fun e => !e.isFor id }
          | block :: innerReversed =>
            closeFormattingLoop tag rounds
              (b.split fmt tag attrs innerReversed.reverse block
                (inside.reverse.takeWhile isPlain).reverse outer)
    | _ => b.closeGeneric tag

/-- Closes the formatting element `tag`. -/
def closeFormatting (b : Builder) (tag : Tag) : Builder :=
  match b.opens with
  | o :: os =>
    if o.name.isHtml tag && !b.formatting.any (·.isFor o.id) then { b with opens := os }
    else closeFormattingLoop tag 8 b
  | [] => closeFormattingLoop tag 8 b

/-- A link inside a link closes the outer one. -/
def closeOpenLink (b : Builder) : Builder :=
  let isLink : Formatting → Bool
    | .marker => false
    | .element _ t _ => t == .a
  match (b.formatting.takeWhile (·.isElement)).find? isLink with
  | some (.element id _ _) =>
    let b := b.closeFormatting .a
    ({ b with formatting := b.formatting.filter fun e => !e.isFor id }).removeOpen id
  | _ => b

end DocStub.Markup.Builder

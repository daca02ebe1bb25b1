/-
  Growing a document in document order.

  1. **Forests** — a `Forest` is what stands side by side in an element: texts, and elements with a forest
     inside.  It says the same as the nodes and links of a document, without numbers.
  2. **Growing** — `Document.grow` adds one new node behind the children of an element, and
     `Document.attach` adds a whole forest, each node after the one in front of it.  So the nodes of the forest
     are numbered in document order.
  3. **Holding** — `Document.Holds` says that the nodes from a number on, with all their links, are a given
     forest below a given element.
  4. **The crux (`placed_attach`)** — by induction on the forest, with a lemma for each kind of node
     (`placed_text`, `placed_element`): a document to which a forest was attached holds it, and of the nodes
     that were there before only two links have changed, the children of the element and the successor of its
     last child.  The inner forest keeps its links while the nodes behind it come, since both of these links
     lie outside.
-/
import DocStub.Markup.Document

namespace DocStub.Markup

/-! ## Forests -/

/-- Nodes side by side, each element with what stands in it. -/
inductive Forest where
  | nil
  | text (cs : Text) (rest : Forest)
  | element (tag : Tag) (attrs : List Attr) (inside rest : Forest)
  deriving DecidableEq, Repr

namespace Forest

/-- The number of nodes. -/
def size : Forest → Nat
  | nil => 0
  | text _ rest => 1 + rest.size
  | element _ _ inside rest => 1 + inside.size + rest.size

/-- All text, in document order. -/
def allText : Forest → Text
  | nil => []
  | text cs rest => cs ++ rest.allText
  | element _ _ inside rest => inside.allText ++ rest.allText

/-- One forest behind the other. -/
def append : Forest → Forest → Forest
  | nil, g => g
  | text cs rest, g => text cs (rest.append g)
  | element tag attrs inside rest, g => element tag attrs inside (rest.append g)

instance : Append Forest := ⟨append⟩

theorem element_append (tag : Tag) (attrs : List Attr) (inside rest g : Forest) :
    element tag attrs inside rest ++ g = element tag attrs inside (rest ++ g) := rfl

/-- Forests side by side. -/
def concat : List Forest → Forest
  | [] => nil
  | f :: fs => f ++ concat fs

/-- A text; an empty one is no node. -/
def ofText (cs : Text) : Forest := if cs = [] then nil else text cs nil

/-- The only text in a text node is its own. -/
theorem allText_ofText (cs : Text) : (ofText cs).allText = cs := by
  rw [ofText]
  split
  · next h => exact h.symm
  · exact List.append_nil cs

/-- The number of the first of the nodes side by side, if they are numbered from `id` on. -/
def first? (f : Forest) (id : Nat) : Option Nat := if f = nil then none else some id

/-- The number of the last of the nodes side by side. -/
def last? (id : Nat) : Forest → Option Nat
  | nil => none
  | text _ rest => some ((rest.last? (id + 1)).getD id)
  | element _ _ inside rest => some ((rest.last? (id + 1 + inside.size)).getD id)

/-- A row of children behind which the forest is put. -/
def extend (f : Forest) (id : Nat) (row : Option Ends) : Option Ends :=
  match f.last? id with
  | none => row
  | some last => some ⟨(row.map (·.first)).getD id, last⟩

theorem extend_text (cs : Text) (rest : Forest) (id : Nat) (row : Option Ends) :
    (text cs rest).extend id row = rest.extend (id + 1) (some (.push row id)) := by
  cases h : rest.last? (id + 1) <;> simp [extend, last?, h, Ends.push]

theorem extend_element (tag : Tag) (attrs : List Attr) (inside rest : Forest) (id : Nat)
    (row : Option Ends) :
    (element tag attrs inside rest).extend id row
      = rest.extend (id + 1 + inside.size) (some (.push row id)) := by
  cases h : rest.last? (id + 1 + inside.size) <;> simp [extend, last?, h, Ends.push]

end Forest

namespace Document

/-! ## Growing -/

/-- Adds a new node behind the children of `above`. -/
def grow (d : Document) (above : Nat) (content : Content) : Document := (d.add content).append above d.size

/-- Adds a forest behind the children of `above`. -/
def attach (d : Document) (above : Nat) : Forest → Document
  | .nil => d
  | .text cs rest => (d.grow above (.text [cs])).attach above rest
  | .element tag attrs inside rest =>
    ((d.grow above (.element ⟨.html, tag⟩ attrs)).attach d.size inside).attach above rest

/-- An element is added before what stands in it. -/
theorem attach_element (d : Document) (above : Nat) (tag : Tag) (attrs : List Attr) (inside : Forest) :
    d.attach above (.element tag attrs inside .nil)
      = (d.grow above (.element ⟨.html, tag⟩ attrs)).attach d.size inside := rfl

/-- Forests that stand side by side can be attached one after the other. -/
theorem attach_append (d : Document) (above : Nat) (f g : Forest) :
    d.attach above (f ++ g) = (d.attach above f).attach above g := by
  induction f generalizing d with
  | nil => rfl
  | text cs rest ih => exact ih _
  | element tag attrs inside rest _ ih => exact ih _

/-- Only the node with the given number is changed. -/
theorem getElem?_modify (d : Document) (id j : Nat) (f : Node → Node) :
    (d.modify id f).nodes[j]? = if id = j then d.nodes[j]?.map f else d.nodes[j]? :=
  Array.getElem?_modify

theorem getElem?_modifyIf (d : Document) (id : Option Nat) (j : Nat) (f : Node → Node) :
    (d.modifyIf id f).nodes[j]? = if id = some j then d.nodes[j]?.map f else d.nodes[j]? := by
  cases id with
  | none => rfl
  | some id => simp only [modifyIf, getElem?_modify, Option.some.injEq]

/-- The new node has the next free number, and no links yet. -/
theorem getElem?_add_size (d : Document) (content : Content) :
    (d.add content).nodes[d.size]? = some ⟨content, none, none, none, none⟩ :=
  Array.getElem?_push_size

/-- The nodes that were there are not touched. -/
theorem getElem?_add (d : Document) (content : Content) {j : Nat} (h : j < d.size) :
    (d.add content).nodes[j]? = d.nodes[j]? :=
  Array.getElem?_push.trans (if_neg (Nat.ne_of_lt h))

theorem size_add (d : Document) (content : Content) : (d.add content).size = d.size + 1 :=
  Array.size_push ..

theorem size_modify (d : Document) (id : Nat) (f : Node → Node) : (d.modify id f).size = d.size :=
  Array.size_modify

theorem size_modifyIf (d : Document) (id : Option Nat) (f : Node → Node) :
    (d.modifyIf id f).size = d.size := by
  cases id with
  | none => rfl
  | some id => exact size_modify d id f

/-- A new node leaves no place that it could be taken out of. -/
theorem detach_add (d : Document) (content : Content) : (d.add content).detach d.size = d.add content := by
  rw [detach, getElem?_add_size]

@[simp] theorem size_grow (d : Document) (above : Nat) (content : Content) :
    (d.grow above content).size = d.size + 1 := by
  rw [grow, append, detach_add]
  simp only [size_modify, size_modifyIf, size_add]

/-- A forest brings in as many nodes as it has. -/
@[simp] theorem size_attach (d : Document) (above : Nat) (f : Forest) :
    (d.attach above f).size = d.size + f.size := by
  induction f generalizing d above with
  | nil => rfl
  | text cs rest ih =>
    rw [attach, ih, size_grow, Forest.size]
    omega
  | element tag attrs inside rest ihInside ihRest =>
    rw [attach, ihRest, ihInside, size_grow, Forest.size]
    omega

section

variable {d : Document} {above : Nat}

/-- A node that was added is not linked, so the last children are what they were. -/
theorem lastChild?_add (content : Content) (h : above < d.size) :
    (d.add content).lastChild? above = d.lastChild? above := by
  rw [lastChild?, getElem?_add d content h, lastChild?]

/-- The new node. -/
theorem getElem?_grow_size (content : Content) (h : above < d.size) :
    (d.grow above content).nodes[d.size]?
      = some ⟨content, some above, d.lastChild? above,
          if d.lastChild? above = some d.size then some d.size else none, none⟩ := by
  rw [grow, append, detach_add, getElem?_modify, if_neg (Nat.ne_of_lt h), getElem?_modifyIf,
    lastChild?_add content h, getElem?_modify, if_pos rfl, getElem?_add_size]
  split <;> rfl

/-- What becomes of a node when a forest is put behind the children of `above`: the first of the new nodes
    follows the last child, and the row of children goes on to the last of them. -/
def relink (d : Document) (above : Nat) (f : Forest) (j : Nat) (n : Node) : Node :=
  { n with
    next := if d.lastChild? above = some j then (f.first? d.size).or n.next else n.next
    children := if above = j then f.extend d.size n.children else n.children }

/-- A single node is the next of the last child, and the new last child. -/
theorem relink_leaf (d : Document) (above j : Nat) (n : Node) :
    d.relink above (.text [] .nil) j n =
      { n with
        next := if d.lastChild? above = some j then some d.size else n.next
        children := if above = j then some (.push n.children d.size) else n.children } := rfl

/-- The old nodes. -/
theorem getElem?_grow (content : Content) (h : above < d.size) {j : Nat} (hj : j < d.size) :
    (d.grow above content).nodes[j]?
      = d.nodes[j]?.map (d.relink above (.text [] .nil) j) := by
  rw [grow, append, detach_add, getElem?_modify, getElem?_modifyIf, lastChild?_add content h,
    getElem?_modify, if_neg (Nat.ne_of_gt hj), getElem?_add d content hj]
  -- the links of a node change in two places, each on its own condition
  cases d.nodes[j]? with
  | none => rw [Option.map_none, ite_self, Option.map_none, ite_self, Option.map_none]
  | some n =>
    simp only [Option.map_some, relink_leaf]
    by_cases hlast : d.lastChild? above = some j
    · by_cases habove : above = j
      · rw [if_pos hlast, if_pos habove, if_pos hlast, if_pos habove]
        rfl
      · rw [if_pos hlast, if_neg habove, if_pos hlast, if_neg habove]
    · by_cases habove : above = j
      · rw [if_neg hlast, if_pos habove, if_neg hlast, if_pos habove]
        rfl
      · rw [if_neg hlast, if_neg habove, if_neg hlast, if_neg habove]

end

/-! ## Holding a forest -/

/-- The nodes from `id` on are the forest, as the children of `above` behind `previous`. -/
def Holds (d : Document) : Nat → Option Nat → Nat → Forest → Prop
  | _, _, _, .nil => True
  | above, previous, id, .text cs rest =>
    d.nodes[id]? = some ⟨.text [cs], some above, previous, rest.first? (id + 1), none⟩
      ∧ d.Holds above (some id) (id + 1) rest
  | above, previous, id, .element tag attrs inside rest =>
    d.nodes[id]? = some ⟨.element ⟨.html, tag⟩ attrs, some above, previous,
        rest.first? (id + 1 + inside.size), inside.extend (id + 1) none⟩
      ∧ d.Holds id none (id + 1) inside
      ∧ d.Holds above (some id) (id + 1 + inside.size) rest

/-- Whether nodes are a forest is told by these nodes alone. -/
theorem Holds.congr {d d' : Document} {f : Forest} :
    ∀ {above : Nat} {previous : Option Nat} {id : Nat}, d.Holds above previous id f →
      (∀ j, id ≤ j → j < id + f.size → d'.nodes[j]? = d.nodes[j]?) → d'.Holds above previous id f := by
  -- each node is told by its own number, and the rest of the forest by higher ones
  induction f with
  | nil => exact fun _ _ => trivial
  | text cs rest ih =>
    intro above previous id hf hsame
    rw [Forest.size] at hsame
    refine ⟨?_, ih hf.2 fun j hle hlt => hsame j (by omega) (by omega)⟩
    rw [hsame id (Nat.le_refl id) (by omega)]
    exact hf.1
  | element tag attrs inside rest ihInside ihRest =>
    intro above previous id hf hsame
    rw [Forest.size] at hsame
    refine ⟨?_, ihInside hf.2.1 fun j hle hlt => hsame j (by omega) (by omega),
      ihRest hf.2.2 fun j hle hlt => hsame j (by omega) (by omega)⟩
    rw [hsame id (Nat.le_refl id) (by omega)]
    exact hf.1

/-! ## What was attached is held -/

/-- The document `d'` is `d` with the forest behind the children of `above`. -/
structure Placed (d d' : Document) (above : Nat) (f : Forest) : Prop where
  held : d'.Holds above (d.lastChild? above) d.size f
  kept : ∀ j, j < d.size → d'.nodes[j]? = d.nodes[j]?.map (d.relink above f j)

/-- A node that is neither the element nor its last child keeps its links. -/
theorem relink_eq_self {d : Document} {above j : Nat} (f : Forest) (habove : above ≠ j)
    (hlast : d.lastChild? above ≠ some j) (n : Node) : d.relink above f j n = n := by
  rw [relink, if_neg hlast, if_neg habove]

/-- An empty forest changes no links. -/
theorem relink_nil (d : Document) (above j : Nat) (n : Node) : d.relink above .nil j n = n := by
  have hnext : (if d.lastChild? above = some j then (Forest.nil.first? d.size).or n.next else n.next)
      = n.next := ite_self _
  have hchildren : (if above = j then Forest.nil.extend d.size n.children else n.children)
      = n.children := ite_self _
  rw [relink, hnext, hchildren]

section

variable {d d' : Document} {above : Nat} {f : Forest}

/-- A node that is neither `above` nor its last child stays as it is. -/
theorem Placed.getElem?_eq (h : Placed d d' above f) {j : Nat} (hj : j < d.size) (habove : above ≠ j)
    (hlast : d.lastChild? above ≠ some j) : d'.nodes[j]? = d.nodes[j]? := by
  rw [h.kept j hj]
  cases d.nodes[j]? with
  | none => rfl
  | some n => exact congrArg some (relink_eq_self f habove hlast n)

/-- A node that was grown is the last child now. -/
theorem lastChild?_grow (content : Content) (h : above < d.size) :
    (d.grow above content).lastChild? above = some d.size := by
  have hnode : d.nodes[above]? = some d.nodes[above] := Array.getElem?_eq_getElem h
  rw [lastChild?, getElem?_grow content h h, hnode]
  show ((if above = above then _ else _ : Option Ends).map _) = _
  rw [if_pos rfl]
  rfl

/-- A new node has no children. -/
theorem lastChild?_grow_size (content : Content) (h : above < d.size) :
    (d.grow above content).lastChild? d.size = none := by
  rw [lastChild?, getElem?_grow_size content h]
  rfl

/-- One new node and then the rest behind it change the links of the old nodes as all of them at once do. -/
theorem relink_relink {d₁ : Document} {rest : Forest} (hlast : d₁.lastChild? above = some d.size)
    (hfirst : f.first? d.size = some d.size)
    (hextend : ∀ row, f.extend d.size row = rest.extend d₁.size (some (.push row d.size)))
    {j : Nat} (hj : j < d.size) (n : Node) :
    d₁.relink above rest j (d.relink above (.text [] .nil) j n) = d.relink above f j n := by
  have hnot : d₁.lastChild? above ≠ some j := by
    rw [hlast]
    exact fun he => Nat.ne_of_gt hj (Option.some.inj he)
  rw [relink_leaf]
  simp only [relink, if_neg hnot, hfirst, hextend, Option.some_or]
  by_cases habove : above = j
  · simp only [if_pos habove]
  · simp only [if_neg habove]

/-- A text is placed: it was grown, and what is behind it is placed behind it. -/
theorem placed_text {cs : Text} {rest : Forest} (h : above < d.size) (hlast : d.lastChild? above ≠ some d.size)
    (hrest : Placed (d.grow above (.text [cs])) d' above rest) : Placed d d' above (.text cs rest) := by
  have hsize := size_grow d above (.text [cs])
  have hlast₁ := lastChild?_grow (.text [cs]) h
  have hnode := getElem?_grow_size (.text [cs]) h
  rw [if_neg hlast] at hnode
  have hheld := hrest.held
  rw [hlast₁, hsize] at hheld
  refine ⟨⟨?_, hheld⟩, fun j hj => ?_⟩
  · rw [hrest.kept d.size (by omega), hnode]
    simp only [Option.map_some, relink, if_pos hlast₁, if_neg (Nat.ne_of_lt h), hsize, Option.or_none]
  · rw [hrest.kept j (by omega), getElem?_grow _ h hj, Option.map_map]
    refine Option.map_congr fun n _ => relink_relink hlast₁ rfl (fun row => ?_) hj n
    rw [Forest.extend_text, hsize]

/-- What is placed inside a new element leaves the nodes in front of it alone. -/
theorem Placed.getElem?_eq_of_grow {content : Content} (h : above < d.size)
    (hinside : Placed (d.grow above content) d' d.size f) {j : Nat} (hj : j < d.size) :
    d'.nodes[j]? = (d.grow above content).nodes[j]? := by
  have hsize : (d.grow above content).size = d.size + 1 := size_grow d above _
  refine hinside.getElem?_eq (by omega) (Nat.ne_of_gt hj) ?_
  rw [lastChild?_grow_size _ h]
  simp

/-- A new element stays the last child while it is filled. -/
theorem Placed.lastChild?_of_grow {content : Content} (h : above < d.size)
    (hinside : Placed (d.grow above content) d' d.size f) : d'.lastChild? above = some d.size := by
  rw [lastChild?, hinside.getElem?_eq_of_grow h h]
  exact lastChild?_grow content h

/-- An element is placed: it was grown, then what stands in it was placed inside, then the rest behind it. -/
theorem placed_element {d₂ : Document} {tag : Tag} {attrs : List Attr} {inside rest : Forest}
    (h : above < d.size) (hlast : d.lastChild? above ≠ some d.size)
    (hinside : Placed (d.grow above (.element ⟨.html, tag⟩ attrs)) d₂ d.size inside)
    (hsize₂ : d₂.size = d.size + 1 + inside.size) (hrest : Placed d₂ d' above rest) :
    Placed d d' above (.element tag attrs inside rest) := by
  have hsize₁ := size_grow d above (.element ⟨.html, tag⟩ attrs)
  have hempty := lastChild?_grow_size (.element ⟨.html, tag⟩ attrs) h
  have hnode := getElem?_grow_size (.element ⟨.html, tag⟩ attrs) h
  rw [if_neg hlast] at hnode
  have hlast₂ : d₂.lastChild? above = some d.size := hinside.lastChild?_of_grow h
  have hheld := hrest.held
  rw [hlast₂, hsize₂] at hheld
  refine ⟨⟨?_, ?_, hheld⟩, fun j hj => ?_⟩
  -- the element itself: its successor comes with the rest, and its children with what is inside
  · rw [hrest.kept d.size (by omega), hinside.kept d.size (by omega), hnode]
    simp only [Option.map_some, relink, if_pos hlast₂, if_neg (Nat.ne_of_lt h), if_pos, hempty,
      reduceCtorEq, if_false, hsize₁, hsize₂, Option.or_none]
  -- what is inside keeps its links while the rest comes
  · have hheldInside := hinside.held
    rw [hempty, hsize₁] at hheldInside
    refine hheldInside.congr fun j hle hlt => hrest.getElem?_eq (by omega) (by omega) ?_
    rw [hlast₂]
    simp only [ne_eq, Option.some.injEq]
    omega
  -- the nodes that were there before
  · rw [hrest.kept j (by omega), hinside.getElem?_eq_of_grow h hj, getElem?_grow _ h hj, Option.map_map]
    refine Option.map_congr fun n _ => relink_relink hlast₂ rfl (fun row => ?_) hj n
    rw [Forest.extend_element, hsize₂]

end

/-- A document to which a forest was attached holds it, and is otherwise as before. -/
theorem placed_attach (f : Forest) {d : Document} {above : Nat} (h : above < d.size)
    (hlast : d.lastChild? above ≠ some d.size) : Placed d (d.attach above f) above f := by
  induction f generalizing d above with
  | nil =>
    refine ⟨trivial, fun j hj => ?_⟩
    rw [attach]
    cases d.nodes[j]? with
    | none => rfl
    | some n => exact congrArg some (relink_nil d above j n).symm
  | text cs rest ih =>
    refine placed_text h hlast (ih ?_ ?_)
    · rw [size_grow]
      omega
    · rw [lastChild?_grow _ h, size_grow]
      simp
  | element tag attrs inside rest ihInside ihRest =>
    let d₁ := d.grow above (.element ⟨.html, tag⟩ attrs)
    have hsize₁ : d₁.size = d.size + 1 := size_grow d above _
    have hsize₂ : (d₁.attach d.size inside).size = d.size + 1 + inside.size := by rw [size_attach, hsize₁]
    have hinside : Placed d₁ (d₁.attach d.size inside) d.size inside := by
      refine ihInside (by omega) ?_
      rw [lastChild?_grow_size _ h]
      simp
    refine placed_element h hlast hinside hsize₂ (ihRest (by omega) ?_)
    rw [hinside.lastChild?_of_grow h, hsize₂]
    simp only [ne_eq, Option.some.injEq]
    omega

end Document

end DocStub.Markup

/-
  What a selector finds in a document that holds a forest.

  1. **Elements** — `Forest.elements` lists the elements of a forest in document order, each with the labels
     around it and the forest inside.  A selector admits some of them (`Selector.admits`), by labels alone.
  2. **Walks** — a walk around an element that holds a forest enters its nodes in the order of their
     numbers (`walk_eq`): by induction on the forest, it takes two moments for each node and comes back to
     the element around.
  3. **Showing** — a place shows an element (`Place.Shows`) if its node, the nodes in it and those around it
     are what the element says.  Then the selector sees in the document what it sees in the list
     (`Place.Shows.selects_eq`), so both selections agree one by one (`forall₂_below`, `forall₂_inDocument`).
-/
import DocStub.Markup.Selector
import DocStub.Proofs.Markup.Forest
import Mathlib.Data.List.Forall2

namespace DocStub.Markup

/-! ## Elements -/

/-- An element: the labels around it, innermost first, its own label, and what stands in it. -/
structure Element where
  around : List Label
  label : Label
  inside : Forest
  deriving DecidableEq, Repr

namespace Forest

/-- The elements of a forest that stands inside elements with the labels `around`, in document order. -/
def elements (around : List Label) : Forest → List Element
  | nil => []
  | text _ rest => rest.elements around
  | element tag attrs inside rest =>
    ⟨around, ⟨tag, attrs⟩, inside⟩ :: (inside.elements (⟨tag, attrs⟩ :: around) ++ rest.elements around)

/-- Forests side by side have their elements one after the other. -/
theorem elements_append (around : List Label) (f g : Forest) :
    (f ++ g).elements around = f.elements around ++ g.elements around := by
  induction f generalizing around with
  | nil => rfl
  | text cs rest ih => exact ih around
  | element tag attrs inside rest _ ih =>
    rw [element_append, elements, elements, ih, List.cons_append, List.append_assoc]

theorem elements_concat (around : List Label) (fs : List Forest) :
    (concat fs).elements around = fs.flatMap (·.elements around) := by
  induction fs with
  | nil => rfl
  | cons f fs ih => rw [concat, elements_append, ih, List.flatMap_cons]

/-- A text has no elements. -/
theorem elements_ofText (around : List Label) (cs : Text) : (ofText cs).elements around = [] := by
  rw [ofText]
  split <;> rfl

end Forest

namespace Element

/-- The elements inside. -/
def below (e : Element) : List Element := e.inside.elements (e.label :: e.around)

/-- All text inside. -/
def text (e : Element) : Text := e.inside.allText

end Element

namespace Selector

/-- Do the labels contain, from the inside out, ones that pass the tests in turn? -/
def passLabels : List Simple → List Label → Bool
  | [], _ => true
  | _ :: _, [] => false
  | s :: ss, l :: ls => if s.passes l then passLabels ss ls else passLabels (s :: ss) ls

/-- Is this an element the selector asks for? -/
def admits (s : Selector) (e : Element) : Bool := s.target.passes e.label && passLabels s.around e.around

/-- The elements inside that the selector asks for. -/
def among (s : Selector) (e : Element) : List Element := e.below.filter s.admits

end Selector

/-! ## Walks -/

namespace Forest

/-- The first child of an element is the first node of what stands in it. -/
theorem first_extend (f : Forest) (id : Nat) : (f.extend id none).map (·.first) = f.first? id := by
  cases f <;> rfl

theorem range'_text (cs : Text) (rest : Forest) (id : Nat) :
    List.range' id (text cs rest).size = id :: List.range' (id + 1) rest.size := by
  rw [size, Nat.add_comm, List.range'_succ]

/-- The numbers of an element, of what stands in it, and of what stands behind it, in this order. -/
theorem range'_element (tag : Tag) (attrs : List Attr) (inside rest : Forest) (id : Nat) :
    List.range' id (element tag attrs inside rest).size
      = id :: (List.range' (id + 1) inside.size ++ List.range' (id + 1 + inside.size) rest.size) := by
  rw [size, Nat.add_assoc, Nat.add_comm 1, List.range'_succ, List.range'_append_1]

end Forest

namespace Document

section

variable {d : Document} {top above id m : Nat} {previous next : Option Nat} {content : Content}

/-- From the entrance of a node past everything in it. -/
theorem walkOn_enter {inside : Forest}
    (hnode : d.nodes[id]? = some ⟨content, some above, previous, next, inside.extend (id + 1) none⟩)
    (hinside : inside ≠ .nil → ∀ seen, d.walkOn top (2 * inside.size + m) (.enter (id + 1)) seen
      = d.walkOn top m (.leave id) ((List.range' (id + 1) inside.size).reverse ++ seen))
    (seen : List Nat) :
    d.walkOn top (2 * inside.size + m + 1) (.enter id) seen
      = d.walkOn top m (.leave id) ((List.range' (id + 1) inside.size).reverse ++ id :: seen) := by
  have hfirst : d.firstChild? id = inside.first? (id + 1) := by
    rw [firstChild?, hnode]
    exact inside.first_extend (id + 1)
  -- the first moment enters the node; an empty one is left at once
  rw [walkOn, following, hfirst]
  by_cases h : inside = .nil
  · subst h
    exact congrArg (fun n => d.walkOn top n (.leave id) (id :: seen)) (Nat.zero_add m)
  · rw [Forest.first?, if_neg h]
    exact hinside h (id :: seen)

/-- From the exit of a node past everything that stands behind it in the same element. -/
theorem walkOn_leave {rest : Forest} {n : Nat} {children : Option Ends}
    (hnode : d.nodes[id]? = some ⟨content, some above, previous, rest.first? n, children⟩)
    (htop : id ≠ top)
    (hrest : rest ≠ .nil → ∀ seen, d.walkOn top (2 * rest.size + m) (.enter n) seen
      = d.walkOn top m (.leave above) ((List.range' n rest.size).reverse ++ seen))
    (seen : List Nat) :
    d.walkOn top (2 * rest.size + m + 1) (.leave id) seen
      = d.walkOn top m (.leave above) ((List.range' n rest.size).reverse ++ seen) := by
  have hnext : d.next? id = rest.first? n := by rw [next?, hnode]; rfl
  have hparent : d.parent? id = some above := by rw [parent?, hnode]; rfl
  -- on to the next node, or out of the element if this was the last one
  rw [walkOn, following, if_neg htop, hnext, hparent]
  by_cases h : rest = .nil
  · subst h
    exact congrArg (fun n => d.walkOn top n (.leave above) seen) (Nat.zero_add m)
  · rw [Forest.first?, if_neg h]
    exact hrest h seen

end

/-- A walk that enters the first node of a forest goes through all of them and comes back to the element
    around them. -/
theorem walkOn_forest {d : Document} {top : Nat} {f : Forest} :
    ∀ {above : Nat} {previous : Option Nat} {id : Nat}, d.Holds above previous id f → f ≠ .nil →
      top < id → ∀ (m : Nat) (seen : List Nat),
        d.walkOn top (2 * f.size + m) (.enter id) seen
          = d.walkOn top m (.leave above) ((List.range' id f.size).reverse ++ seen) := by
  induction f with
  | nil => exact fun _ h => absurd rfl h
  | text cs rest ih =>
    intro above previous id hf _ htop m seen
    -- one moment to enter the node and one to leave it
    have hmoments : 2 * (Forest.text cs rest).size + m
        = 2 * Forest.nil.size + (2 * rest.size + m + 1) + 1 := by
      simp only [Forest.size]
      omega
    rw [hmoments, walkOn_enter hf.1 (fun h => absurd rfl h),
      walkOn_leave hf.1 (by omega) fun h => ih hf.2 h (by omega) m, Forest.range'_text]
    simp [Forest.size]
  | element tag attrs inside rest ihInside ihRest =>
    intro above previous id hf _ htop m seen
    have hmoments : 2 * (Forest.element tag attrs inside rest).size + m
        = 2 * inside.size + (2 * rest.size + m + 1) + 1 := by
      simp only [Forest.size]
      omega
    rw [hmoments, walkOn_enter hf.1 fun h => ihInside hf.2.1 h (by omega) _,
      walkOn_leave hf.1 (by omega) fun h => ihRest hf.2.2 h (by omega) m, Forest.range'_element]
    simp only [List.reverse_cons, List.reverse_append, List.append_assoc, List.singleton_append]

/-- A forest that a document holds has all its nodes there. -/
theorem Holds.le_size {d : Document} {f : Forest} :
    ∀ {above : Nat} {previous : Option Nat} {id : Nat}, d.Holds above previous id f → id ≤ d.size →
      id + f.size ≤ d.size := by
  induction f with
  | nil => exact fun _ h => h
  | text cs rest ih =>
    intro above previous id hf _
    have hlt : id < d.size := (Array.getElem?_eq_some_iff.1 hf.1).1
    have := ih hf.2 hlt
    rw [Forest.size]
    omega
  | element tag attrs inside rest ihInside ihRest =>
    intro above previous id hf _
    have hlt : id < d.size := (Array.getElem?_eq_some_iff.1 hf.1).1
    have := ihRest hf.2.2 (ihInside hf.2.1 hlt)
    rw [Forest.size]
    omega

/-- A walk around an element enters the element and then what it holds. -/
theorem walk_eq {d : Document} {id above : Nat} {previous next : Option Nat} {content : Content}
    {inside : Forest}
    (hnode : d.nodes[id]? = some ⟨content, some above, previous, next, inside.extend (id + 1) none⟩)
    (hinside : d.Holds id none (id + 1) inside) :
    d.walk id = id :: List.range' (id + 1) inside.size := by
  have hlt : id < d.size := (Array.getElem?_eq_some_iff.1 hnode).1
  have hsize := hinside.le_size hlt
  obtain ⟨m, hm⟩ : ∃ m, 2 * d.size = 2 * inside.size + m + 1 :=
    ⟨2 * d.size - 2 * inside.size - 1, by omega⟩
  have hend (seen : List Nat) : d.walkOn id m (.leave id) seen = seen := by
    cases m with
    | zero => rfl
    | succ m => rw [walkOn, following, if_pos rfl]
  rw [walk, hm, walkOn_enter hnode fun h => walkOn_forest hinside h (Nat.lt_succ_self id) m, hend]
  simp

/-- The nodes of a forest have its text. -/
theorem Holds.flatMap_ownText {d : Document} {f : Forest} :
    ∀ {above : Nat} {previous : Option Nat} {id : Nat}, d.Holds above previous id f →
      (List.range' id f.size).flatMap d.ownText = f.allText := by
  induction f with
  | nil => exact fun _ => rfl
  | text cs rest ih =>
    intro above previous id hf
    have hown : d.ownText id = cs := by
      rw [ownText, hf.1]
      simp
    rw [Forest.range'_text, List.flatMap_cons, hown, ih hf.2, Forest.allText]
  | element tag attrs inside rest ihInside ihRest =>
    intro above previous id hf
    have hown : d.ownText id = [] := by rw [ownText, hf.1]
    rw [Forest.range'_element, List.flatMap_cons, hown, List.flatMap_append, ihInside hf.2.1,
      ihRest hf.2.2, Forest.allText]
    rfl

/-! ## Showing -/

/-- The elements around a node, innermost first, have these labels. -/
def Around (d : Document) : Nat → List Label → Prop
  | id, [] => ∀ above, d.parent? id = some above → d.label? above = none
  | id, l :: ls => ∃ above, above < id ∧ d.parent? id = some above ∧ d.label? above = some l
      ∧ d.Around above ls

end Document

/-- The place is the element, with what stands in it and around it. -/
structure Place.Shows (p : Place) (e : Element) : Prop where
  node : ∃ above previous next, p.document.nodes[p.id]?
    = some ⟨.element ⟨.html, e.label.tag⟩ e.label.attrs, some above, previous, next,
        e.inside.extend (p.id + 1) none⟩
  inside : p.document.Holds p.id none (p.id + 1) e.inside
  around : p.document.Around p.id e.around

/-- Looking at the nodes around a node is looking at their labels. -/
theorem Selector.passAround_eq {d : Document} {labels : List Label} :
    ∀ {id : Nat}, d.Around id labels → ∀ (tests : List Simple) {steps : Nat}, id ≤ steps →
      passAround d steps tests id = passLabels tests labels := by
  induction labels with
  | nil =>
    intro id h tests steps _
    cases tests with
    | nil => cases steps <;> rfl
    | cons s ss =>
      -- the steps suffice: each goes to a node with a smaller number
      cases steps with
      | zero => rfl
      | succ steps =>
        rw [passAround]
        cases hparent : d.parent? id with
        | none => rfl
        | some above => simp only [h above hparent]; rfl
  | cons l ls ih =>
    intro id h tests steps hsteps
    obtain ⟨above, hlt, hparent, hlabel, habove⟩ := h
    cases tests with
    | nil => cases steps <;> rfl
    | cons s ss =>
      obtain ⟨steps, rfl⟩ : ∃ n, steps = n + 1 := ⟨steps - 1, by omega⟩
      rw [passAround, hparent]
      simp only [hlabel]
      rw [ih habove ss (by omega), ih habove (s :: ss) (by omega)]
      rfl

namespace Place.Shows

variable {p : Place} {e : Element}

theorem label?_eq (h : p.Shows e) : p.document.label? p.id = some e.label := by
  obtain ⟨above, previous, next, hnode⟩ := h.node
  rw [Document.label?, hnode]
  rfl

theorem isSome_parent? (h : p.Shows e) : (p.document.parent? p.id).isSome = true := by
  obtain ⟨above, previous, next, hnode⟩ := h.node
  rw [Document.parent?, hnode]
  rfl

/-- The place has the text of the element that it shows. -/
theorem text_eq (h : p.Shows e) : p.text = e.text := by
  obtain ⟨above, previous, next, hnode⟩ := h.node
  have hown : p.document.ownText p.id = [] := by rw [Document.ownText, hnode]
  rw [text, Document.text, Document.walk_eq hnode h.inside, List.flatMap_cons, hown, h.inside.flatMap_ownText]
  rfl

/-- The place has the attributes of the element that it shows. -/
theorem attr?_eq (h : p.Shows e) (name : String) : p.attr? name = e.label.attr? name := by
  rw [attr?, h.label?_eq]
  rfl

/-- The selector asks for the place exactly if it asks for the element. -/
theorem selects_eq (h : p.Shows e) (s : Selector) : s.selects p.document p.id = s.admits e := by
  obtain ⟨above, previous, next, hnode⟩ := h.node
  have hlt : p.id < p.document.size := (Array.getElem?_eq_some_iff.1 hnode).1
  rw [Selector.selects, h.label?_eq, Selector.passAround_eq h.around s.around (Nat.le_of_lt hlt)]
  rfl

end Place.Shows

/-! ## Selections -/

namespace Document

/-- The nodes that are elements show the elements of the forest, one by one. -/
theorem Holds.forall₂_elements {d : Document} {f : Forest} :
    ∀ {above : Nat} {previous : Option Nat} {id : Nat} {labels : List Label},
      d.Holds above previous id f → above < id →
      (∀ i, above < i → d.parent? i = some above → d.Around i labels) →
      List.Forall₂ Place.Shows
        (((List.range' id f.size).filter fun i => (d.label? i).isSome).map (Place.mk d))
        (f.elements labels) := by
  induction f with
  | nil => exact fun _ _ _ => .nil
  | text cs rest ih =>
    intro above previous id labels hf hlt haround
    -- a text is passed over on both sides
    have hlabel : d.label? id = none := by rw [label?, hf.1]; rfl
    rw [Forest.range'_text, List.filter_cons_of_neg (by simp [hlabel]), Forest.elements]
    exact ih hf.2 (by omega) haround
  | element tag attrs inside rest ihInside ihRest =>
    intro above previous id labels hf hlt haround
    have hlabel : d.label? id = some ⟨tag, attrs⟩ := by rw [label?, hf.1]; rfl
    have hparent : d.parent? id = some above := by rw [parent?, hf.1]; rfl
    -- the element is shown, then what stands in it, then what stands behind it
    have hshows : Place.Shows ⟨d, id⟩ ⟨labels, ⟨tag, attrs⟩, inside⟩ :=
      ⟨⟨_, _, _, hf.1⟩, hf.2.1, haround id hlt hparent⟩
    rw [Forest.range'_element, List.filter_cons_of_pos (by simp [hlabel]), Forest.elements,
      List.filter_append, List.map_cons, List.map_append]
    refine .cons hshows (List.rel_append (ihInside hf.2.1 (by omega) fun i hi hp => ?_)
      (ihRest hf.2.2 (by omega) haround))
    exact ⟨id, hi, hp, hlabel, hshows.around⟩

/-- What a test selects among the nodes of a forest is what it selects among the elements. -/
theorem Holds.forall₂_filter {d : Document} {f : Forest} {above : Nat} {previous : Option Nat} {id : Nat}
    {labels : List Label} (hf : d.Holds above previous id f) (hlt : above < id)
    (haround : ∀ i, above < i → d.parent? i = some above → d.Around i labels)
    (test : Place → Bool) {admits : Element → Bool}
    (htest : ∀ i, test ⟨d, i⟩ = true → (d.label? i).isSome = true)
    (hagree : ∀ p e, p.Shows e → test p = admits e) :
    List.Forall₂ Place.Shows (((List.range' id f.size).filter fun i => test ⟨d, i⟩).map (Place.mk d))
      ((f.elements labels).filter admits) := by
  -- what the test selects are elements anyway
  have helements : (List.range' id f.size).filter (fun i => test ⟨d, i⟩)
      = ((List.range' id f.size).filter fun i => (d.label? i).isSome).filter fun i => test ⟨d, i⟩ := by
    rw [List.filter_filter]
    refine List.filter_congr fun i _ => ?_
    cases h : test ⟨d, i⟩ with
    | false => rfl
    | true => rw [htest i h]; rfl
  rw [helements, ← Function.comp_def test, ← List.filter_map]
  refine List.rel_filter (fun p e h => ?_) (hf.forall₂_elements hlt haround)
  show test p = true ↔ admits e = true
  rw [hagree p e h]

/-- Only elements are selected, and these have labels. -/
theorem isSome_label? {d : Document} {id : Nat} {s : Selector} (h : s.selects d id = true) :
    (d.label? id).isSome = true := by
  rw [Selector.selects, Bool.and_eq_true] at h
  exact Option.isSome_of_any h.1

end Document

namespace Selector

/-- Inside a place the selector finds what it finds inside the element. -/
theorem forall₂_below (s : Selector) {p : Place} {e : Element} (h : p.Shows e) :
    List.Forall₂ Place.Shows (s.below p) (s.among e) := by
  obtain ⟨above, previous, next, hnode⟩ := h.node
  have haround (i : Nat) (hi : p.id < i) (hparent : p.document.parent? i = some p.id) :
      p.document.Around i (e.label :: e.around) := ⟨p.id, hi, hparent, h.label?_eq, h.around⟩
  let test (q : Place) : Bool := s.selects q.document q.id
  rw [below, Document.walk_eq hnode h.inside]
  exact h.inside.forall₂_filter (Nat.lt_succ_self p.id) haround test
    (fun _ => Document.isSome_label?) fun _ _ hq => hq.selects_eq s

/-- In a document that consists of a forest the selector finds what it finds in the forest. -/
theorem forall₂_inDocument (s : Selector) (f : Forest) :
    List.Forall₂ Place.Shows (s.inDocument (Document.empty.attach Document.root f))
      ((f.elements []).filter s.admits) := by
  have hplaced : Document.empty.Placed (Document.empty.attach Document.root f) Document.root f :=
    Document.placed_attach f Nat.zero_lt_one (fun h => nomatch h)
  have hsize : (Document.empty.attach Document.root f).size = 1 + f.size := Document.size_attach ..
  rw [inDocument, hsize]
  -- from here on only what is known of the nodes counts
  generalize Document.empty.attach Document.root f = d at hplaced ⊢
  have hroot := hplaced.kept Document.root Nat.zero_lt_one
  have hlabel : d.label? Document.root = none := by rw [Document.label?, hroot]; rfl
  have hparent : d.parent? Document.root = none := by rw [Document.parent?, hroot]; rfl
  let test (q : Place) : Bool := (q.document.parent? q.id).isSome && s.selects q.document q.id
  rw [List.range_eq_range', Nat.add_comm, List.range'_succ, List.filter_cons_of_neg]
  · refine hplaced.held.forall₂_filter Nat.zero_lt_one ?_ test ?_ ?_
    · intro i _ hp above habove
      rw [Option.some.inj (habove.symm.trans hp)]
      exact hlabel
    · exact fun i h => Document.isSome_label? (Bool.and_eq_true_iff.1 h).2
    · intro q e hq
      show ((q.document.parent? q.id).isSome && _) = _
      rw [hq.isSome_parent?, hq.selects_eq s, Bool.true_and]
  · rw [show d.parent? 0 = none from hparent]
    exact Bool.false_ne_true

end Selector

/-! ## Reading off -/

section

variable {α : Type} {ps : List Place} {es : List Element}

/-- What is read off places one by one can as well be read off the elements. -/
theorem map_eq_of_forall₂ {f : Place → α} {g : Element → α} (hall : List.Forall₂ Place.Shows ps es)
    (h : ∀ p e, p.Shows e → f p = g e) : ps.map f = es.map g := by
  induction hall with
  | nil => rfl
  | cons hp _ ih => rw [List.map_cons, List.map_cons, h _ _ hp, ih]

/-- What is read from places that show elements is what is read from the elements. -/
theorem filterMap_eq_of_forall₂ {f : Place → Option α} {g : Element → Option α}
    (hall : List.Forall₂ Place.Shows ps es) (h : ∀ p e, p.Shows e → f p = g e) :
    ps.filterMap f = es.filterMap g := by
  induction hall with
  | nil => rfl
  | cons hp _ ih => rw [List.filterMap_cons, List.filterMap_cons, h _ _ hp, ih]

end

end DocStub.Markup

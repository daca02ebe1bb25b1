/-
  Where the texts of a record come from.

  1. **Parameters** — what the next line does to the reader is said once for each case (`ofLines_of_blank` and the
     lemmas below it).  `Parameter.ReadFrom ls p` says of each text of `p` where it comes from: the name is a
     line, the type is that of a single word, or is left out, and the description is a line, or all lines
     behind a callback, or is left out.  The invariant is the same for what the reader holds while it waits for the next line
     (`Expecting.ReadFrom`), and one induction on the lines carries it (`readFrom_of_mem_ofLines`).
  2. **Return values** — `Return.ReadFrom` likewise; here a type may also be cut out of a line of prose.
  3. **Functions** — the sections of a documentation text stand in it, so all records of a function come from
     that text (`FunctionDoc.readFrom_ofBlob`).
  4. **Consequences** — a type is in its canonical form (`TypeTag.IsCanonical`), the type of a parameter is a
     single word (`Parameter.ReadFrom.isToken_type`), and a blank other than the space is gone from all
     texts unless it stands within a line (`FunctionDoc.ReadFrom.avoids`).
-/
import DocStub.Doc.Function
import DocStub.Proofs.Doc.Sections
import DocStub.Proofs.Text.Newline
import DocStub.Proofs.Text.Words

namespace DocStub

open Text (IsToken isToken_of_all)

/-! ## Types -/

namespace TypeTag

/-- The tag is the one that its written form names. -/
def IsCanonical (t : TypeTag) : Prop := ofText t.text = t

/-- A type that was read from a word is the one that its written form names. -/
theorem isCanonical_ofText (token : Text) : (ofText token).IsCanonical := by
  rw [IsCanonical, text_ofText]

/-- Canonical types are known from how they are written. -/
theorem eq_of_text {t u : TypeTag} (ht : t.IsCanonical) (hu : u.IsCanonical) (h : t.text = u.text) :
    t = u := by
  rw [← ht, ← hu, h]

/-- A tag that is chosen by a test has what both choices have. -/
theorem prop_ite {P : TypeTag → Prop} {c : Prop} [Decidable c] {t u : TypeTag} (ht : P t) (hu : P u) :
    P (if c then t else u) := by
  split
  · exact ht
  · exact hu

end TypeTag

open TypeTag (IsCanonical prop_ite)

/-! ## Parameters -/

namespace Parameter

/-- The short forms stand for canonical types, too. -/
theorem isCanonical_typeOf (token : Text) : (typeOf token).IsCanonical :=
  prop_ite (by rfl) <| prop_ite (by rfl) <| prop_ite (by rfl) (TypeTag.isCanonical_ofText token)

/-- The type of a single word is written as a single word. -/
theorem isToken_typeOf {token : Text} (h : IsToken token) : IsToken (typeOf token).text := by
  refine prop_ite (P := fun t => IsToken t.text) (isToken_of_all (by decide) (by decide)) ?_
  refine prop_ite (P := fun t => IsToken t.text) (isToken_of_all (by decide) (by decide)) ?_
  refine prop_ite (P := fun t => IsToken t.text) (isToken_of_all (by decide) (by decide)) ?_
  rw [TypeTag.text_ofText]
  exact h

/-! ### Reading one line -/

section

variable {name l : Text} {e : Expecting} (ls : List Text)

/-- A blank line is passed over, whatever the reader waits for. -/
theorem ofLines_of_blank (h : Text.trim l = []) : ofLines e (l :: ls) = ofLines e ls := by
  simp [ofLines, h]

/-- A line begins a parameter. -/
theorem ofLines_at_name (h : Text.trim l ≠ []) :
    ofLines .name (l :: ls) = ofLines (.type (Text.trim l)) ls := by
  simp [ofLines, h]

/-- Prose in the place of a type is the description, and the type is left out. -/
theorem ofLines_of_words (h : Text.trim l ≠ []) (hwords : Text.isSeveralWords (Text.trim l) = true) :
    ofLines (.type name) (l :: ls) = ⟨name, .any, Text.trim l⟩ :: ofLines .name ls := by
  simp [ofLines, h, hwords]

/-- A callback takes all lines that are left. -/
theorem ofLines_of_function (h : Text.trim l ≠ []) (hwords : Text.isSeveralWords (Text.trim l) = false)
    (htype : typeOf (Text.trim l) = .function) :
    ofLines (.type name) (l :: ls) = [⟨name, .function, absorb ls⟩] := by
  simp [ofLines, h, hwords, htype]

/-- A single word in the place of a type is the type. -/
theorem ofLines_of_type (h : Text.trim l ≠ []) (hwords : Text.isSeveralWords (Text.trim l) = false)
    (htype : typeOf (Text.trim l) ≠ .function) :
    ofLines (.type name) (l :: ls) = ofLines (.description name (typeOf (Text.trim l))) ls := by
  simp only [ofLines, List.isEmpty_iff, h, hwords, Bool.false_eq_true, if_false]

/-- A line behind the type completes the parameter. -/
theorem ofLines_at_description {type : TypeTag} (h : Text.trim l ≠ []) :
    ofLines (.description name type) (l :: ls) = ⟨name, type, Text.trim l⟩ :: ofLines .name ls := by
  simp [ofLines, h]

end

/-! ### Where the texts of a parameter come from -/

/-- The text is one of the lines, trimmed, and says something. -/
def IsLine (ls : List Text) (t : Text) : Prop := t ≠ [] ∧ ∃ l ∈ ls, t = Text.trim l

/-- The type is that of a single word among the lines. -/
def IsTypeLine (ls : List Text) (t : TypeTag) : Prop := ∃ w, IsLine ls w ∧ IsToken w ∧ t = typeOf w

/-- Every text of the parameter comes from these lines, or was left out. -/
structure ReadFrom (ls : List Text) (p : Parameter) : Prop where
  name : IsLine ls p.name
  type : p.type = .any ∨ IsTypeLine ls p.type
  description : p.description = [] ∨ IsLine ls p.description ∨ ∃ ks, ks ⊆ ls ∧ p.description = absorb ks

/-- What was read of a parameter so far comes from these lines. -/
def Expecting.ReadFrom (ls : List Text) : Expecting → Prop
  | .name => True
  | .type word => IsLine ls word
  | .description word tag => IsLine ls word ∧ IsTypeLine ls tag

/-- When the lines end, the parameter that was begun is made of what was read so far. -/
theorem readFrom_of_mem_ofUnfinished {ls : List Text} {e : Expecting} (he : e.ReadFrom ls) {p : Parameter}
    (hp : p ∈ ofUnfinished e) : p.ReadFrom ls := by
  cases e with
  | name => cases hp
  | type name =>
    rw [List.mem_singleton.1 hp]
    exact ⟨he, Or.inl rfl, Or.inl rfl⟩
  | description name type =>
    rw [List.mem_singleton.1 hp]
    exact ⟨he.1, Or.inr he.2, Or.inl rfl⟩

/-- The invariant of the reader: if what it holds comes from the lines, so does every parameter that it gives. -/
theorem readFrom_of_mem_ofLines {ls ks : List Text} {e : Expecting} (he : e.ReadFrom ls) (hks : ks ⊆ ls) :
    ∀ p ∈ ofLines e ks, p.ReadFrom ls := by
  induction ks generalizing e with
  | nil => exact fun p hp => readFrom_of_mem_ofUnfinished he hp
  | cons k ks ih =>
    have hrest : ks ⊆ ls := fun l hl => hks (List.mem_cons_of_mem k hl)
    by_cases hblank : Text.trim k = []
    · rw [ofLines_of_blank ks hblank]
      exact ih he hrest
    have hline : IsLine ls (Text.trim k) := ⟨hblank, k, hks List.mem_cons_self, rfl⟩
    cases e with
    | name =>
      rw [ofLines_at_name ks hblank]
      exact ih (e := .type _) hline hrest
    | type name =>
      by_cases hwords : Text.isSeveralWords (Text.trim k) = true
      · -- several words are a description, and the type is left out
        rw [ofLines_of_words ks hblank hwords]
        intro p hp
        rcases List.mem_cons.1 hp with rfl | hp
        · exact ⟨he, Or.inl rfl, Or.inr (Or.inl hline)⟩
        · exact ih (e := .name) trivial hrest p hp
      · have hwords : Text.isSeveralWords (Text.trim k) = false := by simpa using hwords
        have htoken : IsToken (Text.trim k) :=
          Text.isToken_of_isSeveralWords_eq_false hblank (Text.trim_trim k) hwords
        have htype : IsTypeLine ls (typeOf (Text.trim k)) := ⟨Text.trim k, hline, htoken, rfl⟩
        by_cases hfunction : typeOf (Text.trim k) = .function
        · -- a callback, which takes all lines that are left
          rw [ofLines_of_function ks hblank hwords hfunction]
          intro p hp
          rw [List.mem_singleton.1 hp]
          rw [hfunction] at htype
          exact ⟨he, Or.inr htype, Or.inr (Or.inr ⟨ks, hrest, rfl⟩)⟩
        · rw [ofLines_of_type ks hblank hwords hfunction]
          exact ih (e := .description _ _) ⟨he, htype⟩ hrest
    | description name type =>
      rw [ofLines_at_description ks hblank]
      intro p hp
      rcases List.mem_cons.1 hp with rfl | hp
      · exact ⟨he.1, Or.inr he.2, Or.inr (Or.inl hline)⟩
      · exact ih (e := .name) trivial hrest p hp

/-- Every text of a parameter comes from the lines of its section. -/
theorem readFrom_of_mem_ofSection {s : Text} : ∀ p ∈ ofSection s, p.ReadFrom (Text.lines s) :=
  readFrom_of_mem_ofLines (e := .name) trivial (List.Subset.refl _)

/-! ### What follows for a parameter -/

section

variable {ls : List Text} {p : Parameter}

/-- A parameter has a canonical type, whether it was named or left out. -/
theorem ReadFrom.isCanonical_type (h : p.ReadFrom ls) : p.type.IsCanonical := by
  rcases h.type with hany | ⟨w, -, -, hw⟩
  · rw [hany]
    rfl
  · rw [hw]
    exact isCanonical_typeOf w

/-- The type of a parameter is written as a single word. -/
theorem ReadFrom.isToken_type (h : p.ReadFrom ls) : IsToken p.type.text := by
  rcases h.type with hany | ⟨w, -, htoken, hw⟩
  · rw [hany]
    exact isToken_of_all (by decide) (by decide)
  · rw [hw]
    exact isToken_typeOf htoken

/-- The character stands in no text of the parameter. -/
structure Avoids (c : Char) (p : Parameter) : Prop where
  name : c ∉ p.name
  type : c ∉ p.type.text
  description : c ∉ p.description

/-- A character that no trimmed line has is in no text that is one of the lines. -/
theorem IsLine.not_mem {c : Char} {t : Text} (h : IsLine ls t) (hls : ∀ l ∈ ls, c ∉ Text.trim l) : c ∉ t := by
  obtain ⟨-, l, hl, rfl⟩ := h
  exact hls l hl

/-- The description of a callback has no characters but those of its lines, and spaces. -/
theorem not_mem_absorb {c : Char} (hspace : c ≠ ' ') {ks : List Text} (hks : ∀ k ∈ ks, c ∉ Text.trim k) :
    c ∉ absorb ks := by
  intro hmem
  obtain ⟨k, hk, hin⟩ := List.mem_flatMap.1 hmem
  rcases List.mem_cons.1 hin with he | hin
  · exact hspace he
  · exact hks k hk hin

/-- The one blank that a reader writes by itself is the space. -/
theorem ReadFrom.avoids {c : Char} (hc : isBlank c = true) (hspace : c ≠ ' ') (h : p.ReadFrom ls)
    (hls : ∀ l ∈ ls, c ∉ Text.trim l) : p.Avoids c where
  name := h.name.not_mem hls
  type hmem := by
    rw [h.isToken_type.solid c hmem] at hc
    cases hc
  description := by
    rcases h.description with hnone | hline | ⟨ks, hks, habsorb⟩
    · rw [hnone]
      exact List.not_mem_nil
    · exact hline.not_mem hls
    · rw [habsorb]
      exact not_mem_absorb hspace fun k hk => hls k (hks hk)

end

end Parameter

/-! ## Return values -/

namespace Return

/-- The short forms stand for canonical types, here as well. -/
theorem isCanonical_typeOf (token : Text) : (typeOf token).IsCanonical :=
  prop_ite (by rfl) <| prop_ite (by rfl) <| prop_ite (by rfl) (TypeTag.isCanonical_ofText token)

/-- The type of an iterator is the end of its line. -/
theorem iteratorType_suffix (line : Text) : iteratorType line <:+ line := by
  rw [iteratorType]
  split
  · exact List.nil_suffix
  · next front behind hcut =>
    have hbehind : behind <:+ line := ⟨_, (Text.eq_of_cutAt? hcut).symm⟩
    cases hdrop : Text.dropBytes? 4 behind with
    | none => exact List.nil_suffix
    | some t => exact (Text.dropBytes?_suffix hdrop).trans hbehind

/-- The type comes from one of the lines: it is named by the line, or by what the line says of an iterator. -/
def IsTypeLine (ls : List Text) (t : TypeTag) : Prop :=
  ∃ l ∈ ls, t = typeOf l ∨ t = .ofText (iteratorType l)

/-- Every text of the return value comes from these lines, or was left out. -/
structure ReadFrom (ls : List Text) (r : Return) : Prop where
  type : IsTypeLine ls r.type
  description : r.description = [] ∨ r.description ∈ ls

/-- The invariant of the reader: a type that it holds comes from a line, and so does all that it gives. -/
theorem readFrom_of_mem_ofLines {ls ks : List Text} {type : Option TypeTag}
    (htype : ∀ t, type = some t → IsTypeLine ls t) (hks : ks ⊆ ls) : ∀ r ∈ ofLines type ks, r.ReadFrom ls := by
  -- by the lines that are left
  induction ks generalizing type with
  | nil =>
    intro r hr
    cases type with
    | none => cases hr
    | some t =>
      rw [List.mem_singleton.1 hr]
      exact ⟨htype t rfl, Or.inl rfl⟩
  | cons k ks ih =>
    have hk : k ∈ ls := hks List.mem_cons_self
    have hrest : ks ⊆ ls := fun l hl => hks (List.mem_cons_of_mem k hl)
    have hnext : ∀ r ∈ ofLines none ks, r.ReadFrom ls := ih (by simp) hrest
    cases type with
    | none =>
      rw [ofLines]
      -- prose gives its own type, and a word is held until the next line
      split
      · intro r hr
        rcases List.mem_cons.1 hr with rfl | hr
        · exact ⟨⟨k, hk, Or.inr rfl⟩, Or.inr hk⟩
        · exact hnext r hr
      · refine ih (fun t ht => ?_) hrest
        rw [← Option.some.inj ht]
        exact ⟨k, hk, Or.inl rfl⟩
    | some t =>
      intro r hr
      rcases List.mem_cons.1 hr with rfl | hr
      · exact ⟨htype t rfl, Or.inr hk⟩
      · exact hnext r hr

/-- Every text of a return value comes from the content of its section. -/
theorem readFrom_of_mem_ofSection {s : Text} : ∀ r ∈ ofSection s, r.ReadFrom (Text.contentLines s) := by
  show ∀ r ∈ ofLines none (Text.contentLines s), r.ReadFrom (Text.contentLines s)
  exact readFrom_of_mem_ofLines (by simp) (List.Subset.refl _)

/-! ### What follows for a return value -/

section

variable {ls : List Text} {r : Return}

/-- A return value has a canonical type, be it named by a word or found in prose. -/
theorem ReadFrom.isCanonical_type (h : r.ReadFrom ls) : r.type.IsCanonical := by
  obtain ⟨l, -, hl | hl⟩ := h.type
  · rw [hl]
    exact isCanonical_typeOf l
  · rw [hl]
    exact TypeTag.isCanonical_ofText _

/-- The character stands in no text of the return value. -/
structure Avoids (c : Char) (r : Return) : Prop where
  type : c ∉ r.type.text
  description : c ∉ r.description

/-- A short form stands for a type without blanks, and every other type is written like its word. -/
theorem not_mem_typeOf {c : Char} (hc : isBlank c = true) {l : Text} (hl : c ∉ l) : c ∉ (typeOf l).text := by
  have solid {t : Text} (ht : t.all (!isBlank ·) = true) : c ∉ t := by
    intro hmem
    simpa [hc] using List.all_eq_true.1 ht c hmem
  refine prop_ite (P := fun t => c ∉ t.text) (solid (by decide)) ?_
  refine prop_ite (P := fun t => c ∉ t.text) (solid (by decide)) ?_
  refine prop_ite (P := fun t => c ∉ t.text) (solid (by decide)) ?_
  rw [TypeTag.text_ofText]
  exact hl

/-- A blank that no line has is in no text of the return value, not even in a type found in prose. -/
theorem ReadFrom.avoids {c : Char} (hc : isBlank c = true) (h : r.ReadFrom ls) (hls : ∀ l ∈ ls, c ∉ l) :
    r.Avoids c where
  type := by
    obtain ⟨l, hl, ht | ht⟩ := h.type
    · rw [ht]
      exact not_mem_typeOf hc (hls l hl)
    · rw [ht, TypeTag.text_ofText]
      exact fun hmem => hls l hl ((iteratorType_suffix l).subset hmem)
  description := by
    rcases h.description with hnone | hmem
    · rw [hnone]
      exact List.not_mem_nil
    · exact hls _ hmem

end

end Return

/-! ## Functions -/

namespace FunctionDoc

/-- The records of a section, if there is one. -/
theorem mem_getD_map {α β : Type} {f : α → List β} {o : Option α} {b : β} :
    b ∈ (o.map f).getD [] ↔ ∃ a, o = some a ∧ b ∈ f a := by
  cases o <;> simp

section

variable {name : Identifier} {short blob : Text}

/-- The parameters of a function are those of its section, if there is one. -/
theorem mem_parameters_ofBlob {p : Parameter} : p ∈ (ofBlob name short blob).parameters
    ↔ ∃ s, (Sections.split blob).parameters = some s ∧ p ∈ Parameter.ofSection s :=
  mem_getD_map

/-- The return values of a function are those of its section, if there is one. -/
theorem mem_returns_ofBlob {r : Return} : r ∈ (ofBlob name short blob).returns
    ↔ ∃ s, (Sections.split blob).returns = some s ∧ r ∈ Return.ofSection s :=
  mem_getD_map

end

/-- Every text of the documentation stands in the text that it was read from, or is the short description. -/
structure ReadFrom (short blob : Text) (f : FunctionDoc) : Prop where
  long : f.long = [short] ∨ f.long ≠ [] ∧ ∃ s, s <:+: blob ∧ f.long = Text.contentLines s
  usage : f.usage = [] ∨ ∃ s, s <:+: blob ∧ f.usage = Text.contentLines s
  parameters : ∀ p ∈ f.parameters, ∃ s, s <:+: blob ∧ p.ReadFrom (Text.lines s)
  returns : ∀ r ∈ f.returns, ∃ s, s <:+: blob ∧ r.ReadFrom (Text.contentLines s)

/-- All sections stand in the documentation text, so everything in the documentation comes from it. -/
theorem readFrom_ofBlob (name : Identifier) (short blob : Text) : (ofBlob name short blob).ReadFrom short blob where
  long := by
    -- the short description stands in for an empty one
    let description := Text.contentLines (Sections.split blob).description
    have hlong : (ofBlob name short blob).long = if description.isEmpty then [short] else description := rfl
    rw [hlong]
    split
    · exact Or.inl rfl
    · next hne => exact Or.inr ⟨by simpa using hne, _, Sections.description_infix blob, rfl⟩
  usage := by
    show ((Sections.split blob).usage.map Text.contentLines).getD [] = [] ∨ _
    cases hs : (Sections.split blob).usage with
    | none => exact Or.inl rfl
    | some s => exact Or.inr ⟨s, Sections.lookup_infix hs, by simp [ofBlob, assemble, hs]⟩
  parameters p hp := by
    obtain ⟨s, hs, hmem⟩ := mem_parameters_ofBlob.1 hp
    exact ⟨s, Sections.lookup_infix hs, Parameter.readFrom_of_mem_ofSection p hmem⟩
  returns r hr := by
    obtain ⟨s, hs, hmem⟩ := mem_returns_ofBlob.1 hr
    exact ⟨s, Sections.lookup_infix hs, Return.readFrom_of_mem_ofSection r hmem⟩

/-- The character stands in no text that is written for the function. -/
structure Avoids (c : Char) (f : FunctionDoc) : Prop where
  long : ∀ l ∈ f.long, c ∉ l
  usage : ∀ l ∈ f.usage, c ∉ l
  parameters : ∀ p ∈ f.parameters, p.Avoids c
  returns : ∀ r ∈ f.returns, r.Avoids c

/-- A character that no trimmed line has is in no line of content. -/
theorem not_mem_of_mem_contentLines {c : Char} {l s : Text} (h : ∀ k ∈ Text.lines s, c ∉ Text.trim k)
    (hl : l ∈ Text.contentLines s) : c ∉ l := by
  obtain ⟨hmem, -⟩ := List.mem_filter.1 hl
  obtain ⟨k, hk, rfl⟩ := List.mem_map.1 hmem
  exact h k hk

/-- A blank other than the space that stands within no line of a part of the text, and not in the short
    description, is gone. -/
theorem ReadFrom.avoids {c : Char} (hc : isBlank c = true) (hspace : c ≠ ' ') {short blob : Text}
    {f : FunctionDoc} (h : f.ReadFrom short blob) (hshort : c ∉ short)
    (hblob : ∀ s, s <:+: blob → ∀ l ∈ Text.lines s, c ∉ Text.trim l) : f.Avoids c where
  long := by
    rcases h.long with hs | ⟨-, s, hs, hlong⟩
    · rw [hs]
      simpa using hshort
    · rw [hlong]
      exact fun l hl => not_mem_of_mem_contentLines (hblob s hs) hl
  usage := by
    rcases h.usage with hnone | ⟨s, hs, husage⟩
    · rw [hnone]
      exact fun l hl => nomatch hl
    · rw [husage]
      exact fun l hl => not_mem_of_mem_contentLines (hblob s hs) hl
  parameters p hp := by
    obtain ⟨s, hs, hread⟩ := h.parameters p hp
    exact hread.avoids hc hspace (hblob s hs)
  returns r hr := by
    obtain ⟨s, hs, hread⟩ := h.returns r hr
    exact hread.avoids hc fun l hl => not_mem_of_mem_contentLines (hblob s hs) hl

end FunctionDoc

end DocStub

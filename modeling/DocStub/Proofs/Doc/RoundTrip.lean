/-
  Reading a documentation text gives back what it was written from.

  1. **Records** — `Parameter.Written` and `Return.Written` say which lines document a list of records, one
     rule for each shape.  A record that breaks off, and a callback, can only be the last one.
  2. **Texts** — `FunctionDoc.Written order` puts the description in front and the sections behind it, in
     any order of the keywords.  A section without records may stand there or be left out.
  3. **The crux** — no keyword holds a newline, so none arises where two lines meet: a text of lines without
     keywords is without keywords (`Keyword.free_unlines`), and the scan finds the sections as they were
     written (`Sections.scan_write`).  The records are read back by one induction on the derivation of
     `Written` for each kind of section.
-/
import DocStub.Doc.Function
import DocStub.Proofs.Doc.Sections
import DocStub.Proofs.Text.Lines

namespace DocStub

open Text (IsContent IsToken isToken_of_all unlines)

/-! ## Texts without keywords -/

namespace Keyword

theorem newline_not_mem (k : Keyword) : '\n' ∉ k.text := by cases k <;> decide

/-- A keyword cannot arise where two lines meet. -/
theorem free_unlines {ls : List Text} (h : ∀ l ∈ ls, Free [] l) : Free [] (unlines ls) := by
  intro k hk hin
  obtain ⟨l, hl, hin⟩ := Text.exists_infix_of_infix_unlines k.text_ne_nil k.newline_not_mem hin
  exact h l hl k hk hin

/-- A part of a text without keywords has no keywords. -/
theorem Free.of_infix {t s : Text} (h : Free [] s) (hin : t <:+: s) : Free [] t :=
  fun k hk hkt => h k hk (hkt.trans hin)

end Keyword

open Keyword (Free)

/-- Only the word `function` itself is the written form of that type. -/
theorem TypeTag.ofText_ne_function {token : Text} (h : token ≠ "function".toList) :
    ofText token ≠ .function := by
  intro he
  apply h
  rw [← text_ofText token, he]
  rfl

/-! ## Parameters -/

namespace Parameter

/-- A word that is its own type: it abbreviates none, and does not begin a callback. -/
structure IsTypeWord (t : Text) : Prop where
  token : IsToken t
  plain : t ∉ ["func".toList, "int".toList, "bool".toList, "function".toList]

/-- The parameters `ps` are documented by the lines `ls`. -/
inductive Written : List Parameter → List Text → Prop where
  | nil : Written [] []
  | typed {name type description : Text} {ps : List Parameter} {ls : List Text} :
      IsContent name → IsTypeWord type → IsContent description → Written ps ls →
      Written (⟨name, .ofText type, description⟩ :: ps) (name :: type :: description :: ls)
  | untyped {name description : Text} {ps : List Parameter} {ls : List Text} :
      IsContent name → IsContent description → Text.isSeveralWords description = true → Written ps ls →
      Written (⟨name, .any, description⟩ :: ps) (name :: description :: ls)
  | nameOnly {name : Text} : IsContent name → Written [⟨name, .any, []⟩] [name]
  | undescribed {name type : Text} : IsContent name → IsTypeWord type →
      Written [⟨name, .ofText type, []⟩] [name, type]
  | callback {name type : Text} {ls : List Text} :
      IsContent name → type ∈ ["function".toList, "func".toList] →
      (∀ l ∈ ls, Text.trim l = l ∧ '\n' ∉ l) →
      Written [⟨name, .function, ls.flatMap (' ' :: ·)⟩] (name :: type :: ls)

/-- The texts of a parameter. -/
def texts (p : Parameter) : List Text := [p.name, p.type.text, p.description]

/-- A line of content is neither blank nor padded, so the reader takes it as it is. -/
theorem ofLines_cons {e : Expecting} {l : Text} (h : IsContent l) (ls : List Text) :
    ofLines e (l :: ls) =
      match e with
      | .name => ofLines (.type l) ls
      | .type name =>
        if Text.isSeveralWords l then ⟨name, .any, l⟩ :: ofLines .name ls
        else
          match typeOf l with
          | .function => [⟨name, .function, absorb ls⟩]
          | type => ofLines (.description name type) ls
      | .description name type => ⟨name, type, l⟩ :: ofLines .name ls := by
  have hne : l.isEmpty = false := by simpa using h.ne_nil
  show (if (Text.trim l).isEmpty = true then _ else _) = _
  rw [h.trimmed, hne]
  cases e <;> rfl

/-- Both words that begin a callback are tokens. -/
theorem isToken_of_mem_callback {type : Text} (h : type ∈ ["function".toList, "func".toList]) :
    IsToken type := by
  rcases List.mem_pair.1 h with rfl | rfl
  · exact isToken_of_all (by decide) (by decide)
  · exact isToken_of_all (by decide) (by decide)

/-- A type word leaves the parameter waiting for its description. -/
theorem ofLines_type {name type : Text} (h : IsTypeWord type) (ls : List Text) :
    ofLines (.type name) (type :: ls) = ofLines (.description name (.ofText type)) ls := by
  have hplain := h.plain
  simp only [List.mem_cons, List.not_mem_nil, or_false, not_or] at hplain
  obtain ⟨hfunc, hint, hbool, hfunction⟩ := hplain
  have htype : typeOf type = .ofText type := by
    rw [typeOf, if_neg hfunc, if_neg hint, if_neg hbool]
  -- the case of a callback, which the `match` tries first
  have hne := TypeTag.ofText_ne_function hfunction
  rw [ofLines_cons h.token.isContent]
  simp only [h.token.isSeveralWords, htype, Bool.false_eq_true, if_false]

/-- Both spellings begin a callback. -/
theorem ofLines_callback {name type : Text} (h : type ∈ ["function".toList, "func".toList])
    (ls : List Text) : ofLines (.type name) (type :: ls) = [⟨name, .function, absorb ls⟩] := by
  have htoken : IsToken type := isToken_of_mem_callback h
  have htype : typeOf type = .function := by
    rcases List.mem_pair.1 h with rfl | rfl <;> decide
  rw [ofLines_cons htoken.isContent]
  simp only [htoken.isSeveralWords, htype, Bool.false_eq_true, if_false]

/-- Trimmed lines are absorbed as they are. -/
theorem absorb_eq {ls : List Text} (h : ∀ l ∈ ls, Text.trim l = l ∧ '\n' ∉ l) :
    absorb ls = ls.flatMap (' ' :: ·) := by
  induction ls with
  | nil => rfl
  | cons l ls ih =>
    have ih := ih fun k hk => h k (List.mem_cons_of_mem l hk)
    rw [absorb] at ih ⊢
    rw [List.flatMap_cons, List.flatMap_cons, ih, (h l List.mem_cons_self).1]

/-- The records are read back, by induction on how they were written. -/
theorem ofLines_of_written {ps : List Parameter} {ls : List Text} (h : Written ps ls) :
    ofLines .name ls = ps := by
  -- each rule has put the lines there that lead the reader to its record
  induction h with
  | nil => rfl
  | typed hname htype hdescription _ ih =>
    rw [ofLines_cons hname]
    show ofLines (.type _) _ = _
    rw [ofLines_type htype, ofLines_cons hdescription]
    show _ :: ofLines .name _ = _
    rw [ih]
  | untyped hname hdescription hwords _ ih =>
    rw [ofLines_cons hname]
    show ofLines (.type _) _ = _
    rw [ofLines_cons hdescription]
    simp only [hwords, if_true, ih]
  | nameOnly hname =>
    rw [ofLines_cons hname]
    rfl
  | undescribed hname htype =>
    rw [ofLines_cons hname]
    show ofLines (.type _) _ = _
    rw [ofLines_type htype]
    rfl
  | callback hname htype hls =>
    rw [ofLines_cons hname]
    show ofLines (.type _) _ = _
    rw [ofLines_callback htype, absorb_eq hls]

/-- Every line of the section is a line that reading can cut off as it is. -/
theorem Written.trimmed {ps : List Parameter} {ls : List Text} (h : Written ps ls) :
    ∀ l ∈ ls, Text.trim l = l ∧ '\n' ∉ l := by
  have line {l : Text} (hl : IsContent l) : Text.trim l = l ∧ '\n' ∉ l := ⟨hl.trimmed, hl.newline⟩
  induction h with
  | nil => simp
  | typed hname htype hdescription _ ih =>
    simp only [List.forall_mem_cons]
    exact ⟨line hname, line htype.token.isContent, line hdescription, ih⟩
  | untyped hname hdescription _ _ ih =>
    simp only [List.forall_mem_cons]
    exact ⟨line hname, line hdescription, ih⟩
  | nameOnly hname => simpa using line hname
  | undescribed hname htype => simpa using ⟨line hname, line htype.token.isContent⟩
  | callback hname htype hls =>
    simp only [List.forall_mem_cons]
    exact ⟨line hname, line (isToken_of_mem_callback htype).isContent, hls⟩

theorem free_of_mem_callback {type : Text} (h : type ∈ ["function".toList, "func".toList]) :
    Free [] type := by
  have hfree : ∀ t ∈ ["function".toList, "func".toList], ∀ k ∈ Keyword.all, ¬ k.text <:+: t := by
    decide +kernel
  exact fun k _ => hfree type h k k.mem_all

/-- What holds of all texts of a parameter, one by one. -/
theorem forall_mem_texts {P : Text → Prop} {p : Parameter} :
    (∀ t ∈ p.texts, P t) ↔ P p.name ∧ P p.type.text ∧ P p.description := by
  simp [texts]

/-- Every line stands in a text of a parameter. -/
theorem Written.free {ps : List Parameter} {ls : List Text} (h : Written ps ls)
    (hfree : ∀ p ∈ ps, ∀ t ∈ p.texts, Free [] t) : ∀ l ∈ ls, Free [] l := by
  induction h with
  | nil => simp
  | typed _ _ _ _ ih =>
    obtain ⟨hp, hps⟩ := List.forall_mem_cons.1 hfree
    obtain ⟨hname, htype, hdescription⟩ := forall_mem_texts.1 hp
    rw [TypeTag.text_ofText] at htype
    simp only [List.forall_mem_cons]
    exact ⟨hname, htype, hdescription, ih hps⟩
  | untyped _ _ _ _ ih =>
    obtain ⟨hp, hps⟩ := List.forall_mem_cons.1 hfree
    obtain ⟨hname, -, hdescription⟩ := forall_mem_texts.1 hp
    simp only [List.forall_mem_cons]
    exact ⟨hname, hdescription, ih hps⟩
  | nameOnly _ =>
    obtain ⟨hname, -, -⟩ := forall_mem_texts.1 (hfree _ List.mem_cons_self)
    simpa using hname
  | undescribed _ _ =>
    obtain ⟨hname, htype, -⟩ := forall_mem_texts.1 (hfree _ List.mem_cons_self)
    rw [TypeTag.text_ofText] at htype
    simpa using ⟨hname, htype⟩
  | @callback name type ls _ htype _ =>
    obtain ⟨hname, -, hdescription⟩ := forall_mem_texts.1 (hfree _ List.mem_cons_self)
    simp only [List.forall_mem_cons]
    refine ⟨hname, free_of_mem_callback htype, fun l hl => hdescription.of_infix ?_⟩
    -- the line stands in the description behind its blank
    obtain ⟨front, back, hsplit⟩ := List.append_of_mem hl
    refine ⟨front.flatMap (' ' :: ·) ++ [' '], back.flatMap (' ' :: ·), ?_⟩
    simp [hsplit]

end Parameter

/-! ## Return values -/

namespace Return

/-- A word that is its own type: it abbreviates none. -/
structure IsTypeWord (t : Text) : Prop where
  token : IsToken t
  plain : t ∉ ["the".toList, "bool".toList, "int".toList]

/-- The return values `rs` are documented by the lines `ls`. -/
inductive Written : List Return → List Text → Prop where
  | nil : Written [] []
  | prose {description : Text} {rs : List Return} {ls : List Text} :
      IsContent description → Text.isSeveralWords description = true → Written rs ls →
      Written (⟨.ofText (iteratorType description), description⟩ :: rs) (description :: ls)
  | typed {type description : Text} {rs : List Return} {ls : List Text} :
      IsTypeWord type → IsContent description → Written rs ls →
      Written (⟨.ofText type, description⟩ :: rs) (type :: description :: ls)
  | undescribed {type : Text} : IsTypeWord type → Written [⟨.ofText type, []⟩] [type]

/-- The texts of a return value. -/
def texts (r : Return) : List Text := [r.type.text, r.description]

/-- What holds of all texts of a return value, one by one. -/
theorem forall_mem_texts {P : Text → Prop} {r : Return} :
    (∀ t ∈ r.texts, P t) ↔ P r.type.text ∧ P r.description := by
  simp [texts]

/-- A type word leaves the return value waiting for its description. -/
theorem ofLines_type {type : Text} (h : IsTypeWord type) (ls : List Text) :
    ofLines none (type :: ls) = ofLines (some (.ofText type)) ls := by
  have hplain := h.plain
  simp only [List.mem_cons, List.not_mem_nil, or_false, not_or] at hplain
  obtain ⟨hthe, hbool, hint⟩ := hplain
  have htype : typeOf type = .ofText type := by
    rw [typeOf, if_neg hthe, if_neg hbool, if_neg hint]
  rw [ofLines, h.token.isSeveralWords, if_neg Bool.false_ne_true, htype]

/-- The records are read back, by induction on how they were written. -/
theorem ofLines_of_written {rs : List Return} {ls : List Text} (h : Written rs ls) :
    ofLines none ls = rs := by
  induction h with
  | nil => rfl
  | prose _ hwords _ ih => rw [ofLines, hwords, if_pos rfl, ih]
  | typed htype _ _ ih => rw [ofLines_type htype, ofLines, ih]
  | undescribed htype =>
    rw [ofLines_type htype]
    rfl

/-- Return values are documented by lines of content. -/
theorem Written.isContent {rs : List Return} {ls : List Text} (h : Written rs ls) :
    ∀ l ∈ ls, IsContent l := by
  induction h with
  | nil => simp
  | prose hdescription _ _ ih =>
    simp only [List.forall_mem_cons]
    exact ⟨hdescription, ih⟩
  | typed htype hdescription _ ih =>
    simp only [List.forall_mem_cons]
    exact ⟨htype.token.isContent, hdescription, ih⟩
  | undescribed htype => simpa using htype.token.isContent

/-- Every line stands in a text of a return value. -/
theorem Written.free {rs : List Return} {ls : List Text} (h : Written rs ls)
    (hfree : ∀ r ∈ rs, ∀ t ∈ r.texts, Free [] t) : ∀ l ∈ ls, Free [] l := by
  induction h with
  | nil => simp
  -- the type found in prose is not written; its line is the description
  | prose _ _ _ ih =>
    obtain ⟨hr, hrs⟩ := List.forall_mem_cons.1 hfree
    simp only [List.forall_mem_cons]
    exact ⟨(forall_mem_texts.1 hr).2, ih hrs⟩
  | typed _ _ _ ih =>
    obtain ⟨hr, hrs⟩ := List.forall_mem_cons.1 hfree
    obtain ⟨htype, hdescription⟩ := forall_mem_texts.1 hr
    rw [TypeTag.text_ofText] at htype
    simp only [List.forall_mem_cons]
    exact ⟨htype, hdescription, ih hrs⟩
  | undescribed _ =>
    obtain ⟨htype, -⟩ := forall_mem_texts.1 (hfree _ List.mem_cons_self)
    rw [TypeTag.text_ofText] at htype
    simpa using htype

end Return

/-! ## Documentation texts -/

namespace FunctionDoc

/-- The texts that documentation is written from. -/
def texts (d : FunctionDoc) : List Text :=
  d.long ++ d.usage ++ d.parameters.flatMap Parameter.texts ++ d.returns.flatMap Return.texts

/-- Documentation that can be written down.  The description may be the short one that stands in for an
    empty text. -/
structure WellFormed (d : FunctionDoc) : Prop where
  free : ∀ t ∈ d.texts, ∀ k : Keyword, ¬ k.text <:+: t
  long : (d.long ≠ [] ∧ ∀ l ∈ d.long, IsContent l) ∨ d.long = [d.short]
  usage : ∀ l ∈ d.usage, IsContent l
  parameters : ∃ ls, Parameter.Written d.parameters ls
  returns : ∃ ls, Return.Written d.returns ls

/-- An order of sections in which everything that is documented has its place. -/
structure Orders (d : FunctionDoc) (order : List Keyword) : Prop where
  nodup : order.Nodup
  usage : d.usage ≠ [] → .usage ∈ order
  parameters : d.parameters ≠ [] → .parameters ∈ order
  returns : d.returns ≠ [] → .returns ∈ order

/-- The lines of a section. -/
def HasLines (d : FunctionDoc) : Keyword → List Text → Prop
  | .usage, ls => ls = d.usage
  | .parameters, ls => Parameter.Written d.parameters ls
  | .returns, ls => Return.Written d.returns ls

/-- The lines of the description; none, if the short one stands in. -/
def HasDescription (d : FunctionDoc) (ls : List Text) : Prop :=
  (ls = d.long ∧ ls ≠ [] ∧ ∀ l ∈ ls, IsContent l) ∨ (ls = [] ∧ d.long = [d.short])

/-- The sections in the given order, each with its lines below the line of the keyword. -/
def parts (order : List Keyword) (lines : Keyword → List Text) : List (Keyword × Text) :=
  order.map fun k => (k, '\n' :: unlines (lines k))

/-- The text documents `d`, with its sections in the given order. -/
inductive Written (d : FunctionDoc) (order : List Keyword) : Text → Prop where
  | mk (description : List Text) (lines : Keyword → List Text) :
      d.HasDescription description → (∀ k ∈ order, d.HasLines k (lines k)) →
      Written d order (Sections.write (unlines description) (parts order lines))

/-! ## Reading the text -/

/-- A keyword has the section that was written for it, if it is in the order. -/
theorem lookup_parts (order : List Keyword) (lines : Keyword → List Text) (k : Keyword) :
    (parts order lines).lookup k = if k ∈ order then some ('\n' :: unlines (lines k)) else none := by
  induction order with
  | nil => rfl
  | cons j order ih =>
    rw [parts] at ih ⊢
    rw [List.map_cons, List.lookup_cons]
    by_cases hj : k = j
    · subst hj
      simp
    · have hb : (k == j) = false := by simpa using hj
      simp [hb, hj, ih]

/-- What is read from a section, or from its absence. -/
theorem read_lookup {α : Type} {order : List Keyword} {lines : Keyword → List Text} {k : Keyword}
    {read : Text → List α} {xs : List α} (hin : k ∈ order → read ('\n' :: unlines (lines k)) = xs)
    (hout : xs ≠ [] → k ∈ order) : (((parts order lines).lookup k).map read).getD [] = xs := by
  rw [lookup_parts]
  by_cases hk : k ∈ order
  · rw [if_pos hk]
    exact hin hk
  · rw [if_neg hk]
    exact (Classical.not_not.1 fun hne => hk (hout hne)).symm

/-- The lines of a section come from texts without keywords, so they have none. -/
theorem HasLines.free {d : FunctionDoc} (hd : d.WellFormed) {k : Keyword} {ls : List Text}
    (h : d.HasLines k ls) : ∀ l ∈ ls, Free [] l := by
  have hfree : ∀ t ∈ d.texts, Free [] t := fun t ht j _ => hd.free t ht j
  simp only [texts, List.forall_mem_append, List.forall_mem_flatMap] at hfree
  obtain ⟨⟨⟨-, husage⟩, hparameters⟩, hreturns⟩ := hfree
  cases k with
  | usage =>
    obtain rfl := h
    exact husage
  | returns => exact Return.Written.free h hreturns
  | parameters => exact Parameter.Written.free h hparameters

/-- The lines of the description come from texts without keywords, so they have none. -/
theorem HasDescription.free {d : FunctionDoc} (hd : d.WellFormed) {ls : List Text}
    (h : d.HasDescription ls) : ∀ l ∈ ls, Free [] l := by
  rcases h with ⟨rfl, -, -⟩ | ⟨rfl, -⟩
  · exact fun l hl j _ => hd.free l (by simp [texts, hl]) j
  · simp

/-- The description is read back; the short one stands in for an empty one. -/
theorem HasDescription.long_eq {d : FunctionDoc} {ls : List Text} (h : d.HasDescription ls) :
    (if (Text.contentLines (unlines ls)).isEmpty then [d.short]
      else Text.contentLines (unlines ls)) = d.long := by
  rcases h with ⟨rfl, hne, hcontent⟩ | ⟨rfl, hshort⟩
  · rw [Text.contentLines_unlines hcontent, if_neg (by simpa using hne)]
  · exact hshort.symm

/-- The scan finds the sections as they were written. -/
theorem scan_written {d : FunctionDoc} (hd : d.WellFormed) {order : List Keyword} (ho : order.Nodup)
    {description : List Text} {lines : Keyword → List Text} (hdescription : d.HasDescription description)
    (hlines : ∀ k ∈ order, d.HasLines k (lines k)) :
    Sections.scan [] (Sections.write (unlines description) (parts order lines)) =
      (unlines description, parts order lines) := by
  have hempty : Free [] [] := fun k _ hin => k.text_ne_nil (List.infix_nil.1 hin)
  refine Sections.scan_write (Keyword.free_unlines (hdescription.free hd)) (Sections.apart_of_free ?_ ?_ ?_)
  · simpa [parts, Function.comp_def] using ho
  · simp
  · intro p hp
    obtain ⟨k, hk, rfl⟩ := List.mem_map.1 hp
    show Free [] (unlines ([] :: lines k))
    exact Keyword.free_unlines (List.forall_mem_cons.2 ⟨hempty, (hlines k hk).free hd⟩)

/-- A text that documents a function is read back as its documentation. -/
theorem ofBlob_of_written {d : FunctionDoc} (hd : d.WellFormed) {order : List Keyword}
    (ho : d.Orders order) {blob : Text} (h : d.Written order blob) : ofBlob d.name d.short blob = d := by
  obtain ⟨description, lines, hdescription, hlines⟩ := h
  have husage : (((parts order lines).lookup .usage).map Text.contentLines).getD [] = d.usage := by
    refine read_lookup (fun hk => ?_) ho.usage
    rw [Text.contentLines_newline_cons, show lines .usage = d.usage from hlines _ hk]
    exact Text.contentLines_unlines hd.usage
  have hparameters :
      (((parts order lines).lookup .parameters).map Parameter.ofSection).getD [] = d.parameters := by
    refine read_lookup (fun hk => ?_) ho.parameters
    have hwritten : Parameter.Written d.parameters (lines .parameters) := hlines _ hk
    show Parameter.ofLines .name (Text.lines (unlines (lines .parameters))) = _
    rw [Text.lines_unlines hwritten.trimmed]
    exact Parameter.ofLines_of_written hwritten
  have hreturns : (((parts order lines).lookup .returns).map Return.ofSection).getD [] = d.returns := by
    refine read_lookup (fun hk => ?_) ho.returns
    have hwritten : Return.Written d.returns (lines .returns) := hlines _ hk
    rw [Return.ofSection, Text.contentLines_newline_cons, Text.contentLines_unlines hwritten.isContent]
    exact Return.ofLines_of_written hwritten
  -- now the scan is the one that was written
  rw [ofBlob, assemble, Sections.split, scan_written hd ho.nodup hdescription hlines, Sections.ofFound]
  simp only [husage, hparameters, hreturns, hdescription.long_eq]

/-- Documentation that can be written down can be written in every order of its sections. -/
theorem exists_written {d : FunctionDoc} (hd : d.WellFormed) (order : List Keyword) :
    ∃ blob, d.Written order blob := by
  obtain ⟨ps, hps⟩ := hd.parameters
  obtain ⟨rs, hrs⟩ := hd.returns
  -- the empty description has the text of none
  obtain ⟨description, hdescription⟩ : ∃ ls, d.HasDescription ls := by
    rcases hd.long with ⟨hne, hcontent⟩ | hshort
    · exact ⟨d.long, Or.inl ⟨rfl, hne, hcontent⟩⟩
    · exact ⟨[], Or.inr ⟨rfl, hshort⟩⟩
  let lines : Keyword → List Text
    | .usage => d.usage
    | .parameters => ps
    | .returns => rs
  refine ⟨_, Written.mk description lines hdescription fun k _ => ?_⟩
  cases k with
  | usage => rfl
  | parameters => exact hps
  | returns => exact hrs

/-- **The round trip.**  Documentation has a text in every order of its sections, and each such text is
    read as the documentation that it was written from. -/
theorem ofBlob_written {d : FunctionDoc} (hd : d.WellFormed) {order : List Keyword}
    (ho : d.Orders order) :
    (∃ blob, d.Written order blob) ∧ ∀ blob, d.Written order blob → ofBlob d.name d.short blob = d :=
  ⟨exists_written hd order, fun _ => ofBlob_of_written hd ho⟩

/-- Documentation with records of every shape. -/
def sample : FunctionDoc where
  name := .normalize "send".toList
  short := "Sends.".toList
  long := ["Sends a message.".toList, "Colours allowed.".toList]
  usage := ["ch:send(1)".toList]
  parameters :=
    [⟨"msg".toList, .raw "Text".toList, "the text".toList⟩,
     ⟨"how".toList, .any, "as you like".toList⟩,
     ⟨"done".toList, .function, " called  at last".toList⟩]
  returns :=
    [⟨.raw "lines".toList, "an iterator of lines".toList⟩, ⟨.boolean, "sent".toList⟩, ⟨.integer, []⟩]

/-- The lines of the sections of `sample`. -/
def sampleLines : Keyword → List Text
  | .usage => ["ch:send(1)".toList]
  | .parameters =>
    ["msg".toList, "Text".toList, "the text".toList, "how".toList, "as you like".toList, "done".toList,
      "func".toList, "called".toList, [], "at last".toList]
  | .returns => ["an iterator of lines".toList, "boolean".toList, "sent".toList, "integer".toList]

/-- The sample has all sections, and a record of every shape. -/
theorem wellFormed_sample : sample.WellFormed ∧ ∀ k, sample.HasLines k (sampleLines k) := by
  have line {l : Text} (h : (l ≠ [] ∧ Text.trim l = l) ∧ '\n' ∉ l) : IsContent l := ⟨h.1.1, h.1.2, h.2⟩
  have lines {ls : List Text} (h : ∀ l ∈ ls, (l ≠ [] ∧ Text.trim l = l) ∧ '\n' ∉ l) :
      ∀ l ∈ ls, IsContent l := fun l hl => line (h l hl)
  have htext : Parameter.IsTypeWord "Text".toList := ⟨isToken_of_all (by decide) (by decide), by decide⟩
  have hps : Parameter.Written sample.parameters (sampleLines .parameters) :=
    .typed (line (by decide +kernel)) htext (line (by decide +kernel)) <|
    .untyped (line (by decide +kernel)) (line (by decide +kernel)) (by decide +kernel) <|
    @Parameter.Written.callback "done".toList "func".toList ["called".toList, [], "at last".toList]
      (line (by decide +kernel)) (by decide) (by decide +kernel)
  have hprose : IsContent "an iterator of lines".toList := line (by decide +kernel)
  have hboolean : Return.IsTypeWord "boolean".toList := ⟨isToken_of_all (by decide) (by decide), by decide⟩
  have hinteger : Return.IsTypeWord "integer".toList := ⟨isToken_of_all (by decide) (by decide), by decide⟩
  have hrs : Return.Written sample.returns (sampleLines .returns) :=
    .prose hprose (by decide +kernel) <|
    .typed hboolean (line (by decide +kernel)) <|
    .undescribed hinteger
  have hfree : ∀ t ∈ sample.texts, ∀ k ∈ Keyword.all, ¬ k.text <:+: t := by decide +kernel
  constructor
  · exact {
      free := fun t ht k => hfree t ht k k.mem_all
      long := Or.inl ⟨by decide, lines (by decide +kernel)⟩
      usage := lines (by decide +kernel)
      parameters := ⟨_, hps⟩
      returns := ⟨_, hrs⟩ }
  · intro k
    cases k with
    | usage => rfl
    | parameters => exact hps
    | returns => exact hrs

theorem ofBlob_written_sample :
    sample.WellFormed ∧ sample.Orders [.returns, .usage, .parameters] ∧
      ofBlob sample.name sample.short
        ("Sends a message.\nColours allowed.\n".toList
          ++ "Returns:\nan iterator of lines\nboolean\nsent\ninteger\n".toList
          ++ "Usage:\nch:send(1)\n".toList
          ++ "Parameters:\nmsg\nText\nthe text\nhow\nas you like\ndone\nfunc\n".toList
          ++ "called\n\nat last\n".toList) = sample := by
  obtain ⟨hd, hlines⟩ := wellFormed_sample
  have ho : sample.Orders [.returns, .usage, .parameters] :=
    ⟨by decide, fun _ => by decide, fun _ => by decide, fun _ => by decide⟩
  refine ⟨hd, ho, (ofBlob_written hd ho).2 _ ?_⟩
  have hlong : sample.HasDescription sample.long := by
    rcases hd.long with ⟨hne, hcontent⟩ | hshort
    · exact Or.inl ⟨rfl, hne, hcontent⟩
    · exact absurd hshort (by decide)
  have htext : sample.Written [.returns, .usage, .parameters]
      (Sections.write (unlines sample.long) (parts [.returns, .usage, .parameters] sampleLines)) :=
    .mk sample.long sampleLines hlong fun k _ => hlines k
  convert htext using 1
  decide +kernel

end FunctionDoc

end DocStub

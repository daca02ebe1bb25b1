/-
  A documentation text is read in the same way however it is laid out.

  1. **Sections** — let `R` relate texts that have the same words and can be cut at them (`Text.KeepsWords`).
     Keywords are words.  So texts that are related by `R` are cut into sections of the same kinds, and what stands
     in these is related by `R` again (`related_split`).
  2. **Parameters** — what a line does to the reader depends on what it says, trimmed, and is one of three things
     (`ofLines_cons_cases`).  Only callbacks take blank lines, so an empty line at the end adds a space to the
     description of a callback, or nothing (`sameButEnd_append_blank`).
  3. **Functions** — all other parts are read from lines of content, which are the same.  So texts with the same
     lines give the same documentation but for the end of a callback's description (`FunctionDoc.SameButEnd`).
-/
import DocStub.Proofs.Doc.Anchors
import DocStub.Proofs.Doc.Records
import DocStub.Proofs.Text.LineByLine

namespace DocStub

open Text (SameLines PaddedLines KeepsWords IsToken)

/-! ## Sections -/

theorem Keyword.isToken_text (k : Keyword) : IsToken k.text := by cases k <;> decide

namespace Sections

open Keyword (Free)

/-- The sections have the same keywords, and their texts are related by `R`. -/
def SameParts (R : Text → Text → Prop) : List (Keyword × Text) → List (Keyword × Text) → Prop :=
  List.Forall₂ fun p q => p.1 = q.1 ∧ R p.2 q.2

section

variable {R : Text → Text → Prop} (hR : KeepsWords R)
include hR

/-- What is written from parts is cut at their keywords. -/
theorem exists_eq_write {t b : Text} {parts : List (Keyword × Text)} (h : R (write t parts) b) :
    ∃ t' parts', b = write t' parts' ∧ R t t' ∧ SameParts R parts parts' := by
  induction parts generalizing t b with
  | nil =>
    rw [write, List.flatMap_nil, List.append_nil] at h
    exact ⟨b, [], (List.append_nil b).symm, h, .nil⟩
  | cons p parts ih =>
    obtain ⟨k, body⟩ := p
    have htext : write t ((k, body) :: parts) = t ++ k.text ++ write body parts :=
      append_write_cons [] t body k parts
    rw [htext] at h
    obtain ⟨t', rest, rfl, ht, hrest⟩ := hR.cuts k.text t _ b k.isToken_text h
    obtain ⟨body', parts', rfl, hbody, hparts⟩ := ih hrest
    exact ⟨t', (k, body') :: parts', (append_write_cons [] t' body' k parts').symm, ht, .cons ⟨rfl, hbody⟩ hparts⟩

/-- Related texts are free of the same keywords. -/
theorem free_of_related {seen : List Keyword} {s t : Text} (h : R s t) (hs : Free seen s) : Free seen t :=
  fun k hk hin => hs k hk (hR.isInfix_of_isInfix k.isToken_text h hin)

/-- Parts that are related one by one can be joined if the others can. -/
theorem apart_of_sameParts {seen : List Keyword} {ps qs : List (Keyword × Text)} (h : SameParts R ps qs)
    (hps : Apart seen ps) : Apart seen qs := by
  induction h generalizing seen with
  | nil => exact trivial
  | @cons p q ps qs hpq hrest ih =>
    obtain ⟨k, body⟩ := p
    obtain ⟨j, body'⟩ := q
    obtain ⟨rfl, hbody⟩ := hpq
    obtain ⟨hk, hfree, hparts⟩ := hps
    exact ⟨hk, free_of_related hR hbody hfree, ih hparts⟩

/-- Scans of related texts find the same keywords, and related texts between them. -/
theorem sameParts_scan {a b : Text} (h : R a b) :
    R (scan [] a).1 (scan [] b).1 ∧ SameParts R (scan [] a).2 (scan [] b).2 := by
  rw [← write_scan [] a] at h
  obtain ⟨t, parts, rfl, ht, hparts⟩ := exists_eq_write hR h
  -- the parts of the second text can be joined, so they are what the scan finds
  obtain ⟨hd, hp⟩ := apart_scan [] a
  rw [scan_write (free_of_related hR ht hd) (apart_of_sameParts hR hparts hp)]
  exact ⟨ht, hparts⟩

omit hR in
/-- The sections that a keyword opens on both sides are related, or there is none on either. -/
theorem lookup_sameParts {ps qs : List (Keyword × Text)} (h : SameParts R ps qs) (k : Keyword) :
    Option.Rel R (ps.lookup k) (qs.lookup k) := by
  induction h with
  | nil => exact .none
  | @cons p q ps qs hpq hrest ih =>
    rw [List.lookup_cons, List.lookup_cons, hpq.1]
    split
    · exact .some hpq.2
    · exact ih

/-- The parts of two texts are related by `R`. -/
structure Related (R : Text → Text → Prop) (s t : Sections) : Prop where
  description : R s.description t.description
  body : ∀ k, Option.Rel R (s.body? k) (t.body? k)

/-- Related texts are cut into related parts. -/
theorem related_split {a b : Text} (h : R a b) : (split a).Related R (split b) := by
  obtain ⟨hd, hp⟩ := sameParts_scan hR h
  refine ⟨hd, fun k => ?_⟩
  rw [split, split, body?_ofFound, body?_ofFound]
  exact lookup_sameParts hp k

end

end Sections

/-! ## Parameters -/

namespace Parameter

/-- The same parameters, but that the description of a callback at the end may have other blanks at its end. -/
def SameButEnd (ps qs : List Parameter) : Prop :=
  ps = qs ∨ ∃ front name d e, ps = front ++ [⟨name, .function, d⟩] ∧ qs = front ++ [⟨name, .function, e⟩]
    ∧ Text.trimEnd d = Text.trimEnd e

/-- The end of a list stays its end when a parameter is put in front. -/
theorem SameButEnd.cons {ps qs : List Parameter} (h : SameButEnd ps qs) (p : Parameter) :
    SameButEnd (p :: ps) (p :: qs) := by
  rcases h with rfl | ⟨front, name, d, e, rfl, rfl, he⟩
  · exact Or.inl rfl
  · exact Or.inr ⟨p :: front, name, d, e, rfl, rfl, he⟩

theorem SameButEnd.symm {ps qs : List Parameter} (h : SameButEnd ps qs) : SameButEnd qs ps := by
  rcases h with rfl | ⟨front, name, d, e, hps, hqs, he⟩
  · exact Or.inl rfl
  · exact Or.inr ⟨front, name, e, d, hqs, hps, he.symm⟩

/-- A line is passed, or completes a parameter, or begins the description of a callback. -/
theorem ofLines_cons_cases (e : Expecting) (l : Text) :
    (∃ e', ∀ ls, ofLines e (l :: ls) = ofLines e' ls)
    ∨ (∃ p, ∀ ls, ofLines e (l :: ls) = p :: ofLines .name ls)
    ∨ ∃ name, ∀ ls, ofLines e (l :: ls) = [⟨name, .function, absorb ls⟩] := by
  by_cases hblank : Text.trim l = []
  · exact Or.inl ⟨e, fun ls => ofLines_of_blank ls hblank⟩
  cases e with
  | name => exact Or.inl ⟨.type (Text.trim l), fun ls => ofLines_at_name ls hblank⟩
  | type name =>
    cases hwords : Text.isSeveralWords (Text.trim l) with
    | true => exact Or.inr (Or.inl ⟨_, fun ls => ofLines_of_words ls hblank hwords⟩)
    | false =>
      by_cases hfunction : typeOf (Text.trim l) = .function
      · exact Or.inr (Or.inr ⟨name, fun ls => ofLines_of_function ls hblank hwords hfunction⟩)
      · exact Or.inl ⟨_, fun ls => ofLines_of_type ls hblank hwords hfunction⟩
  | description name type => exact Or.inr (Or.inl ⟨_, fun ls => ofLines_at_description ls hblank⟩)

/-- The reader sees what a line says, trimmed. -/
theorem ofLines_trim_cons (e : Expecting) (l : Text) (ls : List Text) :
    ofLines e (Text.trim l :: ls) = ofLines e (l :: ls) := by
  simp only [ofLines, Text.trim_trim]

/-- A callback takes its lines trimmed. -/
theorem absorb_map_trim (ls : List Text) : absorb (ls.map Text.trim) = absorb ls := by
  simp only [absorb, List.flatMap_map, Text.trim_trim]

/-- The reader sees what the lines say, trimmed. -/
theorem ofLines_map_trim (e : Expecting) (ls : List Text) : ofLines e (ls.map Text.trim) = ofLines e ls := by
  induction ls generalizing e with
  | nil => rfl
  | cons l ls ih =>
    rw [List.map_cons, ofLines_trim_cons]
    -- a trimmed line does the same to the reader, and only a callback looks at the lines behind it
    rcases ofLines_cons_cases e l with ⟨e', h⟩ | ⟨p, h⟩ | ⟨name, h⟩
    · rw [h, h, ih]
    · rw [h, h, ih]
    · rw [h, h, absorb_map_trim]

/-- An empty line at the end adds a space to the description of a callback, if there is one. -/
theorem sameButEnd_append_blank (e : Expecting) (ls : List Text) :
    SameButEnd (ofLines e ls) (ofLines e (ls ++ [[]])) := by
  induction ls generalizing e with
  -- by the lines, as far as a callback does not take the rest of them
  | nil => exact Or.inl (ofLines_of_blank [] rfl).symm
  | cons l ls ih =>
    rw [List.cons_append]
    rcases ofLines_cons_cases e l with ⟨e', h⟩ | ⟨p, h⟩ | ⟨name, h⟩
    · rw [h, h]
      exact ih e'
    · rw [h, h]
      exact (ih .name).cons p
    · have hspace : absorb (ls ++ [[]]) = absorb ls ++ [' '] := List.flatMap_append
      rw [h, h, hspace]
      refine Or.inr ⟨[], name, absorb ls, absorb ls ++ [' '], rfl, rfl, ?_⟩
      rw [Text.trimEnd_append_blanks (List.forall_mem_singleton.2 rfl)]

theorem ofSection_eq (s : Text) : ofSection s = ofLines .name ((Text.lines s).map Text.trim) :=
  (ofLines_map_trim .name (Text.lines s)).symm

/-- Sections with the same lines give the same parameters, but for an empty line at the end of a callback. -/
theorem sameButEnd_ofSection {s t : Text} (h : SameLines s t) : SameButEnd (ofSection s) (ofSection t) := by
  have hlines := h.map_trim_lines
  rw [ofSection_eq, ofSection_eq]
  rcases Text.emptyEnd_eq_or s with hs | hs <;> rcases Text.emptyEnd_eq_or t with ht | ht
  all_goals rw [hs, ht] at hlines
  · rw [List.append_nil, List.append_nil] at hlines
    exact Or.inl (by rw [hlines])
  · rw [List.append_nil] at hlines
    rw [hlines]
    exact (sameButEnd_append_blank ..).symm
  · rw [List.append_nil] at hlines
    rw [← hlines]
    exact sameButEnd_append_blank ..
  · exact Or.inl (by rw [List.append_cancel_right hlines])

/-- Padding adds no line, so the parameters are the same. -/
theorem ofSection_eq_of_paddedLines {s t : Text} (h : PaddedLines s t) : ofSection s = ofSection t := by
  rw [ofSection_eq, ofSection_eq, h.map_trim_lines]

end Parameter

/-- Return values are read from content alone, so sections with the same lines give the same. -/
theorem Return.ofSection_eq_of_sameLines {s t : Text} (h : SameLines s t) :
    Return.ofSection s = Return.ofSection t := by
  rw [Return.ofSection, Return.ofSection, h.contentLines_eq]

/-! ## Functions -/

/-- What is made of related texts, or of no text. -/
theorem getD_map_related {α : Type} {R : Text → Text → Prop} {P : α → α → Prop} {f : Text → α}
    {o o' : Option Text} (h : Option.Rel R o o') (hf : ∀ s t, R s t → P (f s) (f t)) {d : α} (hd : P d d) :
    P ((o.map f).getD d) ((o'.map f).getD d) := by
  cases h with
  | none => exact hd
  | some h => exact hf _ _ h

namespace FunctionDoc

/-- The same documentation, but that the description of a callback at the end of the parameters may have other
    blanks at its end. -/
structure SameButEnd (f g : FunctionDoc) : Prop where
  name : f.name = g.name
  short : f.short = g.short
  long : f.long = g.long
  usage : f.usage = g.usage
  parameters : Parameter.SameButEnd f.parameters g.parameters
  returns : f.returns = g.returns

/-- If the parameters are equal, so is the documentation. -/
theorem SameButEnd.eq {f g : FunctionDoc} (h : f.SameButEnd g) (hp : f.parameters = g.parameters) : f = g := by
  obtain ⟨hname, hshort, hlong, husage, -, hreturns⟩ := h
  cases f
  cases g
  cases hname
  cases hshort
  cases hlong
  cases husage
  cases hp
  cases hreturns
  rfl

section

variable (name : Identifier) (short : Text) {a b : Text}

/-- Texts with the same lines give the same documentation, but for the end of a callback's description. -/
theorem sameButEnd_of_sameLines (h : SameLines a b) :
    (ofBlob name short a).SameButEnd (ofBlob name short b) := by
  obtain ⟨hd, hbody⟩ := Sections.related_split Text.keepsWords_sameLines h
  refine ⟨rfl, rfl, ?_, ?_, ?_, ?_⟩
  · simp only [ofBlob, assemble, hd.contentLines_eq]
  · exact getD_map_related (hbody .usage) (fun _ _ hst => hst.contentLines_eq) rfl
  · exact getD_map_related (hbody .parameters) (fun _ _ => Parameter.sameButEnd_ofSection) (Or.inl rfl)
  · exact getD_map_related (hbody .returns) (fun _ _ => Return.ofSection_eq_of_sameLines) rfl

/-- Blanks in front of newlines do not change the documentation at all. -/
theorem ofBlob_eq_of_paddedLines (h : PaddedLines a b) : ofBlob name short a = ofBlob name short b := by
  obtain ⟨-, hbody⟩ := Sections.related_split Text.keepsWords_paddedLines h
  refine (sameButEnd_of_sameLines name short h.sameLines).eq ?_
  exact getD_map_related (hbody .parameters) (fun _ _ => Parameter.ofSection_eq_of_paddedLines) rfl

end

/-- **Layout does not matter.**  Two documentation texts with the same lines, trimmed, are read as the same
    documentation, but for blanks at the end of a callback's description.  Not even these differ if the second text
    is the first one with more blanks in front of its newlines, and so other line ends. -/
theorem ofBlob_independent_of_layout (name : Identifier) (short : Text) :
    (∀ a b, (Text.splitAt '\n' a).map Text.trim = (Text.splitAt '\n' b).map Text.trim →
      (ofBlob name short a).SameButEnd (ofBlob name short b))
    ∧ (∀ a b, PaddedLines a b → ofBlob name short a = ofBlob name short b)
    ∧ ∀ a, ofBlob name short a = ofBlob name short (Text.withReturns a) := by
  refine ⟨?_, ?_, ?_⟩
  · intro a b h
    exact sameButEnd_of_sameLines name short (Text.sameLines_iff.2 h)
  · intro a b h
    exact ofBlob_eq_of_paddedLines name short h
  · intro a
    exact ofBlob_eq_of_paddedLines name short (Text.paddedLines_withReturns a)

/-- A blank behind the last newline makes a line, which a callback takes; blanks in front of newlines do not. -/
theorem ofBlob_independent_of_layout_sample :
    let name := Identifier.normalize "run".toList
    let a := "Runs.\nParameters: cb\nfunc\nwhen done\n".toList
    let b := "\tRuns.\r\n Parameters: cb\nfunc\n  when done\n ".toList
    let c := "Runs. ".toList ++ '\n' :: ("Parameters: cb\r".toList ++ '\n' :: ("func".toList ++ '\n' ::
      ("when done\r ".toList ++ '\n' :: [])))
    ((ofBlob name [] a).SameButEnd (ofBlob name [] b) ∧ ofBlob name [] a ≠ ofBlob name [] b)
      ∧ ofBlob name [] a = ofBlob name [] c := by
  intro name a b c
  have hlines : (Text.splitAt '\n' a).map Text.trim = (Text.splitAt '\n' b).map Text.trim := by decide +kernel
  have hspace : ∀ x ∈ [' '], isBlank x = true := List.forall_mem_singleton.2 rfl
  have hreturn : ∀ x ∈ ['\r'], isBlank x = true := List.forall_mem_singleton.2 rfl
  have hboth : ∀ x ∈ ['\r', ' '], isBlank x = true := List.forall_mem_cons.2 ⟨rfl, hspace⟩
  have hpadded : PaddedLines a c := by
    refine .line (l := "Runs.".toList) (by decide) (by decide) ⟨[' '], hspace, rfl⟩ ?_
    refine .line (l := "Parameters: cb".toList) (by decide) (by decide) ⟨['\r'], hreturn, rfl⟩ ?_
    refine .line (l := "func".toList) (by decide) (by decide) (.refl _) ?_
    refine .line (l := "when done".toList) (by decide) (by decide) ⟨['\r', ' '], hboth, rfl⟩ ?_
    exact .last List.not_mem_nil List.not_mem_nil rfl
  have hdiffer : ofBlob name [] a ≠ ofBlob name [] b := by decide +kernel
  exact ⟨⟨(ofBlob_independent_of_layout name []).1 a b hlines, hdiffer⟩,
    (ofBlob_independent_of_layout name []).2.1 a c hpadded⟩

end FunctionDoc

end DocStub

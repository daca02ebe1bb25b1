/-
  What is written for a function tells what was known of it.

  1. **Cutting** — where a property holds of all of one part and fails at the front of the next, two lists
     are cut at the same place (`append_inj_of_forall`).  Everything below is a cut of this kind: texts at the
     first blank, the lines of a function at the first annotation.
  2. **Records** — in the line of a parameter or return value only a description may be left out, with the
     space in front of it (`behindSpace`).  Its name and type are single words, so they can be told apart
     (`parameterLine_inj`, `returnLine_inj`).
  3. **Description and usage** — a bare comment mark behind the first line opens the usage block, for only
     the first line of a description may be empty (`description_usage_inj`).
  4. **Functions** — the text of a function ends its comments at the first line that is none.  So two functions
     of the same text have the same parts (`eq_of_function_eq`).
-/
import DocStub.Proofs.Stub.Lines

namespace DocStub

open Text (IsToken)

/-! ## Cutting -/

/-- Two parts can be told from each other if the first one has a property to its end, and the second does not begin
    with it. -/
theorem append_inj_of_forall {α : Type} {P : α → Prop} {a a' b b' : List α} (ha : ∀ x ∈ a, P x)
    (ha' : ∀ x ∈ a', P x) (hb : ∀ x, b.head? = some x → ¬ P x) (hb' : ∀ x, b'.head? = some x → ¬ P x)
    (h : a ++ b = a' ++ b') : a = a' ∧ b = b' := by
  induction a generalizing a' with
  | nil =>
    cases a' with
    | nil => exact ⟨rfl, h⟩
    | cons x a' =>
      -- one part would be longer, and the other list would go on with its property
      have hx : b.head? = some x := by rw [← List.nil_append b, h]; rfl
      exact absurd (ha' x List.mem_cons_self) (hb x hx)
  | cons x a ih =>
    cases a' with
    | nil =>
      have hx : b'.head? = some x := by rw [← List.nil_append b', ← h]; rfl
      exact absurd (ha x List.mem_cons_self) (hb' x hx)
    | cons y a' =>
      obtain ⟨rfl, htail⟩ := List.cons.inj h
      obtain ⟨rfl, hrest⟩ := ih (fun z hz => ha z (List.mem_cons_of_mem x hz))
        (fun z hz => ha' z (List.mem_cons_of_mem x hz)) htail
      exact ⟨rfl, hrest⟩

/-- Two lists of the same images are the same, if the images of their members differ. -/
theorem eq_of_map_eq {α β : Type} {f : α → β} {a b : List α}
    (hinj : ∀ x ∈ a, ∀ y ∈ b, f x = f y → x = y) (h : a.map f = b.map f) : a = b := by
  induction a generalizing b with
  | nil => exact (List.map_eq_nil_iff.1 h.symm).symm
  | cons x a ih =>
    cases b with
    | nil => cases h
    | cons y b =>
      obtain ⟨hxy, htail⟩ := List.cons.inj h
      have hrest : ∀ u ∈ a, ∀ v ∈ b, f u = f v → u = v :=
        fun u hu v hv => hinj u (List.mem_cons_of_mem x hu) v (List.mem_cons_of_mem y hv)
      rw [hinj x List.mem_cons_self y List.mem_cons_self hxy, ih hrest htail]

namespace Text

/-- A single word ends at the first blank. -/
theorem IsToken.append_inj {t u x y : Text} (ht : IsToken t) (hu : IsToken u)
    (hx : ∀ c, x.head? = some c → isBlank c = true) (hy : ∀ c, y.head? = some c → isBlank c = true)
    (h : t ++ x = u ++ y) : t = u ∧ x = y :=
  append_inj_of_forall ht.solid hu.solid (fun c hc => by simp [hx c hc]) (fun c hc => by simp [hy c hc]) h

/-- Lines that begin with `c` end where something else begins. -/
theorem unlines_append_inj {c : Char} {a b : List Text} {x y : Text}
    (ha : ∀ l ∈ a, '\n' ∉ l ∧ l.head? = some c) (hb : ∀ l ∈ b, '\n' ∉ l ∧ l.head? = some c)
    (hx : x.head? ≠ some c) (hy : y.head? ≠ some c) (h : unlines a ++ x = unlines b ++ y) :
    a = b ∧ x = y := by
  have head_unlines {k : Text} (hk : k.head? = some c) (ks : List Text) (z : Text) :
      (unlines (k :: ks) ++ z).head? = some c := by
    rw [unlines_cons, List.append_assoc, List.head?_append, hk]
    rfl
  induction a generalizing b with
  | nil =>
    cases b with
    | nil => exact ⟨rfl, h⟩
    | cons k ks =>
      -- one list would be longer, and what follows the other would begin with `c`
      have hhead := head_unlines (hb k List.mem_cons_self).2 ks y
      rw [← h] at hhead
      exact absurd hhead hx
  | cons l ls ih =>
    cases b with
    | nil =>
      have hhead := head_unlines (ha l List.mem_cons_self).2 ls x
      rw [h] at hhead
      exact absurd hhead hy
    | cons k ks =>
      rw [unlines_cons, unlines_cons, List.append_assoc, List.append_assoc] at h
      have hl : ∀ d ∈ l, d ≠ '\n' := fun d hd he => (ha l List.mem_cons_self).1 (he ▸ hd)
      have hk : ∀ d ∈ k, d ≠ '\n' := fun d hd he => (hb k List.mem_cons_self).1 (he ▸ hd)
      -- the first lines end at the first newline
      obtain ⟨rfl, hrest⟩ := append_inj_of_forall (P := (· ≠ '\n')) hl hk (by simp) (by simp) h
      obtain ⟨rfl, hxy⟩ := ih (fun m hm => ha m (List.mem_cons_of_mem l hm))
        (fun m hm => hb m (List.mem_cons_of_mem l hm)) (List.cons.inj hrest).2
      exact ⟨rfl, hxy⟩

end Text

/-! ## Records -/

/-- A parameter whose line can be read back. -/
structure Parameter.IsLegible (p : Parameter) : Prop where
  name : IsToken p.name
  type : IsToken p.type.text
  canonical : p.type.IsCanonical

/-- A return value whose line can be read back: its type is left out, or it is a single word that cannot be
    taken for the mark of the description. -/
structure Return.IsLegible (r : Return) : Prop where
  type : r.type.text = [] ∨ IsToken r.type.text ∧ r.type.text ≠ ['#']
  canonical : r.type.IsCanonical

namespace Stub

/-- What stands for a description behind the last word of a line. -/
def behindSpace (d : Text) : Text := if d = [] then [] else ' ' :: d

theorem isBlank_of_head?_space (s : Text) : ∀ c, (' ' :: s).head? = some c → isBlank c = true := by
  intro c hc
  rw [← Option.some.inj hc]
  decide

/-- What is behind a word is set off by a blank, or there is nothing. -/
theorem isBlank_of_head?_behindSpace {d : Text} : ∀ c, (behindSpace d).head? = some c → isBlank c = true := by
  intro c hc
  rw [behindSpace] at hc
  split at hc
  · cases hc
  · exact isBlank_of_head?_space d c hc

/-- The space behind a word tells where the description begins. -/
theorem behindSpace_inj {d e : Text} (h : behindSpace d = behindSpace e) : d = e := by
  rw [behindSpace, behindSpace] at h
  split at h <;> split at h
  · next hd he => rw [hd, he]
  · cases h
  · cases h
  · exact (List.cons.inj h).2

/-- A space behind a word is dangling, and goes. -/
theorem trimEnd_token_space {t : Text} (ht : IsToken t) (a : Text) : Text.trimEnd (a ++ (t ++ [' '])) = a ++ t := by
  obtain ⟨c, r, hcr⟩ := List.exists_cons_of_ne_nil ht.ne_nil
  have hc : c ∈ t := by rw [hcr]; exact List.mem_cons_self
  have hlast : Text.trimEnd t = t :=
    Text.trimEnd_eq_self fun d hd => ht.solid d (List.mem_of_getLast? hd)
  have hspace : Text.trimEnd (t ++ [' ']) = Text.trimEnd t := List.rdropWhile_concat_pos isBlank t ' ' (by decide)
  rw [Text.trimEnd_append ⟨c, List.mem_append_left _ hc, ht.solid c hc⟩, hspace, hlast]

/-- Only the space behind the last word is dangling. -/
theorem withoutDanglingBlank_token {t : Text} (ht : IsToken t) (a d : Text) :
    withoutDanglingBlank (a ++ (t ++ [' ']) ++ d) d = a ++ (t ++ behindSpace d) := by
  rw [withoutDanglingBlank, behindSpace]
  cases d with
  | nil => simpa using trimEnd_token_space ht a
  | cons c d => simp

/-! ### Parameters -/

/-- The line of a parameter in its parts: the name, a space, the type, and the description behind another space. -/
theorem parameterLine_eq {p : Parameter} (h : p.IsLegible) :
    parameterLine p =
      comment ++ "@param ".toList ++ (p.name ++ ' ' :: (p.type.text ++ behindSpace p.description)) := by
  have hsome : p.type.isEmpty = false := by simpa [TypeTag.isEmpty] using h.type.ne_nil
  rw [parameterLine, hsome]
  show withoutDanglingBlank
    (comment ++ "@param ".toList ++ p.name ++ [' '] ++ (p.type.text ++ [' ']) ++ p.description) _ = _
  rw [withoutDanglingBlank_token h.type]
  simp only [List.append_assoc, List.singleton_append]

/-- A parameter can be read from its line: its name and its type are single words, so each ends at the next space. -/
theorem parameterLine_inj {p q : Parameter} (hp : p.IsLegible) (hq : q.IsLegible)
    (h : parameterLine p = parameterLine q) : p = q := by
  rw [parameterLine_eq hp, parameterLine_eq hq] at h
  obtain ⟨hname, hrest⟩ := hp.name.append_inj hq.name (isBlank_of_head?_space _) (isBlank_of_head?_space _)
    (List.append_cancel_left h)
  obtain ⟨htype, hdescription⟩ := hp.type.append_inj hq.type isBlank_of_head?_behindSpace
    isBlank_of_head?_behindSpace (List.cons.inj hrest).2
  obtain ⟨pname, ptype, pdescription⟩ := p
  obtain ⟨qname, qtype, qdescription⟩ := q
  obtain rfl : ptype = qtype := TypeTag.eq_of_text hp.canonical hq.canonical htype
  obtain rfl : pdescription = qdescription := behindSpace_inj hdescription
  rw [show pname = qname from hname]

/-! ### Return values -/

/-- The mark in front of the description of a return value is a word by itself. -/
theorem isToken_mark : IsToken ['#'] := by decide

/-- The line of a return value in its parts: the type, a mark, and the description behind a space. -/
theorem returnLine_eq (r : Return) :
    returnLine r = comment ++ "@return ".toList ++ typePart r.type ++ ('#' :: behindSpace r.description) := by
  show withoutDanglingBlank
    (comment ++ "@return ".toList ++ typePart r.type ++ (['#'] ++ [' ']) ++ r.description) _ = _
  rw [withoutDanglingBlank_token isToken_mark]
  rfl

/-- A type that is not written cannot be taken for one that is. -/
theorem typePart_append_inj {r s : Return} (hr : r.IsLegible) (hs : s.IsLegible)
    (h : typePart r.type ++ ('#' :: behindSpace r.description) = typePart s.type ++ ('#' :: behindSpace s.description)) :
    r.type.text = s.type.text ∧ r.description = s.description := by
  have hnone {t : TypeTag} (ht : t.text = []) : typePart t = [] := by simp [typePart, TypeTag.isEmpty, ht]
  have hsome {t : TypeTag} (ht : IsToken t.text) : typePart t = t.text ++ [' '] := by
    simp [typePart, TypeTag.isEmpty, ht.ne_nil]
  rcases hr.type with hre | ⟨hrt, hr⟩ <;> rcases hs.type with hse | ⟨hst, hs⟩
  · rw [hnone hre, hnone hse] at h
    exact ⟨hre.trans hse.symm, behindSpace_inj (List.cons.inj h).2⟩
  · rw [hnone hre, hsome hst, List.append_assoc] at h
    -- the mark would be the type
    have hmark := isToken_mark.append_inj hst isBlank_of_head?_behindSpace (isBlank_of_head?_space _) h
    exact absurd hmark.1.symm hs
  · rw [hsome hrt, hnone hse, List.append_assoc] at h
    -- the type would be the mark
    have hmark := hrt.append_inj isToken_mark (isBlank_of_head?_space _) isBlank_of_head?_behindSpace h
    exact absurd hmark.1 hr
  · rw [hsome hrt, hsome hst, List.append_assoc, List.append_assoc] at h
    obtain ⟨htype, hrest⟩ := hrt.append_inj hst (isBlank_of_head?_space _) (isBlank_of_head?_space _) h
    have hdescription := (List.cons.inj (List.cons.inj hrest).2).2
    exact ⟨htype, behindSpace_inj hdescription⟩

/-- A return value can be read from its line: the mark tells whether there is a type, and where the description
    begins. -/
theorem returnLine_inj {r s : Return} (hr : r.IsLegible) (hs : s.IsLegible)
    (h : returnLine r = returnLine s) : r = s := by
  rw [returnLine_eq, returnLine_eq, List.append_assoc, List.append_assoc _ (typePart s.type)] at h
  obtain ⟨htype, hdescription⟩ := typePart_append_inj hr hs (List.append_cancel_left h)
  obtain ⟨rtype, rdescription⟩ := r
  obtain ⟨stype, sdescription⟩ := s
  obtain rfl : rtype = stype := TypeTag.eq_of_text hr.canonical hs.canonical htype
  rw [show rdescription = sdescription from hdescription]

end Stub

/-! ## Functions that can be read back -/

namespace FunctionDoc

/-- No line of the description looks like an annotation, and the names of parameters and the types of return
    values are single words, where there is a type. -/
structure IsUnambiguous (f : FunctionDoc) : Prop where
  long : ∀ l ∈ f.long, l.head? ≠ some '@'
  names : ∀ p ∈ f.parameters, IsToken p.name
  types : ∀ r ∈ f.returns, r.type.text = [] ∨ IsToken r.type.text ∧ r.type.text ≠ ['#']

instance (f : FunctionDoc) : Decidable f.IsUnambiguous :=
  decidable_of_iff
    ((∀ l ∈ f.long, l.head? ≠ some '@') ∧ (∀ p ∈ f.parameters, IsToken p.name)
      ∧ ∀ r ∈ f.returns, r.type.text = [] ∨ IsToken r.type.text ∧ r.type.text ≠ ['#'])
    ⟨fun ⟨h₁, h₂, h₃⟩ => ⟨h₁, h₂, h₃⟩, fun ⟨h₁, h₂, h₃⟩ => ⟨h₁, h₂, h₃⟩⟩

/-- A function whose lines can be read back. -/
structure IsLegible (f : FunctionDoc) : Prop where
  /-- Only the first line of the description may be empty. -/
  described : ∃ l ls, f.long = l :: ls ∧ ∀ k ∈ ls, k ≠ []
  long : ∀ l ∈ f.long, l.head? ≠ some '@'
  parameters : ∀ p ∈ f.parameters, p.IsLegible
  returns : ∀ r ∈ f.returns, r.IsLegible
  /-- Every line in front of the declaration is a comment on a line of its own. -/
  comments : ∀ l ∈ Stub.commentLines f, '\n' ∉ l ∧ Stub.comment <+: l

/-- What the reader of a documentation text ensures by itself. -/
theorem isLegible_ofBlob {name : Identifier} {short blob : Text} (hshort : '\n' ∉ short)
    (h : (ofBlob name short blob).IsUnambiguous) : (ofBlob name short blob).IsLegible where
  described := by
    rcases (readFrom_ofBlob name short blob).long with hs | ⟨hne, s, -, hlong⟩
    · exact ⟨short, [], hs, fun _ h => nomatch h⟩
    · obtain ⟨l, ls, hcons⟩ := List.exists_cons_of_ne_nil hne
      -- lines of content are never empty
      refine ⟨l, ls, hcons, fun k hk => ?_⟩
      have hmem : k ∈ Text.contentLines s := by
        rw [← hlong, hcons]
        exact List.mem_cons_of_mem l hk
      exact (Text.isContent_of_mem_contentLines hmem).ne_nil
  long := h.long
  parameters p hp := by
    obtain ⟨s, -, hread⟩ := (readFrom_ofBlob name short blob).parameters p hp
    exact ⟨h.names p hp, hread.isToken_type, hread.isCanonical_type⟩
  returns r hr := by
    obtain ⟨s, -, hread⟩ := (readFrom_ofBlob name short blob).returns r hr
    exact ⟨h.types r hr, hread.isCanonical_type⟩
  comments l hl := by
    have havoids := avoids_newline_ofBlob name hshort blob
    have hsingle : ∀ p ∈ (ofBlob name short blob).parameters, p.IsSingle := by
      intro p hp
      obtain ⟨s, -, hread⟩ := (readFrom_ofBlob name short blob).parameters p hp
      exact hread.isSingle
    exact ⟨Stub.not_mem_commentLines (by decide) (by decide) havoids l hl,
      Stub.comment_prefix_commentLines hsingle l hl⟩

end FunctionDoc

namespace Stub

/-! ## Description and usage -/

/-- The usage can be read from its lines. -/
theorem usageLines_inj {u v : List Text} (h : usageLines u = usageLines v) : u = v := by
  cases u with
  | nil =>
    cases v with
    | nil => rfl
    | cons y v => cases h
  | cons x u =>
    cases v with
    | nil => cases h
    | cons y v =>
      have hlines := List.append_cancel_right h
      refine eq_of_map_eq (fun a _ b _ hab => ?_) (List.append_cancel_left hlines)
      exact List.append_cancel_left hab

/-- The usage block opens with a bare comment mark. -/
theorem head?_usageLines {u : List Text} : ∀ l, (usageLines u).head? = some l → l = comment := by
  intro l hl
  cases u with
  | nil => cases hl
  | cons x u => exact (Option.some.inj hl).symm

/-- The lines in front of those for parameters and return values. -/
def proseLines (f : FunctionDoc) : List Text := f.long.map (comment ++ ·) ++ usageLines f.usage

/-- The description and the usage can be told apart: only the first line of the description may be empty, and the
    usage opens with an empty comment. -/
theorem description_usage_inj {f g : FunctionDoc} (hf : f.IsLegible) (hg : g.IsLegible)
    (h : proseLines f = proseLines g) : f.long = g.long ∧ f.usage = g.usage := by
  obtain ⟨l, ls, hfl, hls⟩ := hf.described
  obtain ⟨k, ks, hgk, hks⟩ := hg.described
  rw [proseLines, proseLines, hfl, hgk] at h
  obtain ⟨hfirst, hrest⟩ := List.cons.inj h
  have hmarked {ms : List Text} (hms : ∀ m ∈ ms, m ≠ []) : ∀ m ∈ ms.map (comment ++ ·), m ≠ comment := by
    intro m hm
    obtain ⟨t, ht, rfl⟩ := List.mem_map.1 hm
    simpa using hms t ht
  obtain ⟨hlines, husage⟩ := append_inj_of_forall (P := (· ≠ comment)) (hmarked hls) (hmarked hks)
    (fun m hm => not_not.2 (head?_usageLines m hm)) (fun m hm => not_not.2 (head?_usageLines m hm)) hrest
  refine ⟨?_, usageLines_inj husage⟩
  rw [hfl, hgk, List.append_cancel_left hfirst]
  exact congrArg (k :: ·) (eq_of_map_eq (fun a _ b _ hab => List.append_cancel_left hab) hlines)

/-! ## Annotations -/

/-- Does the line annotate a parameter or a return value? -/
def IsAnnotation (l : Text) : Prop := "---@".toList <+: l

/-- No line of the description or the usage looks like an annotation. -/
theorem not_isAnnotation_of_mem_proseLines {f : FunctionDoc} (hf : f.IsLegible) :
    ∀ l ∈ proseLines f, ¬ IsAnnotation l := by
  -- behind the comment mark an annotation has an at sign
  have hother {t : Text} (ht : t.head? ≠ some '@') : ¬ IsAnnotation (comment ++ t) := by
    rintro ⟨r, hr⟩
    have htail : '@' :: r = t := List.append_cancel_left (show comment ++ '@' :: r = comment ++ t from hr)
    exact ht (by rw [← htail]; rfl)
  simp only [proseLines, List.forall_mem_append, List.forall_mem_map]
  refine ⟨fun l hl => hother (hf.long l hl), ?_⟩
  rw [usageLines]
  split
  · exact fun l hl => absurd hl List.not_mem_nil
  · simp only [List.forall_mem_append, List.forall_mem_map, List.forall_mem_cons]
    refine ⟨⟨⟨?_, ?_, ?_, fun _ h => absurd h List.not_mem_nil⟩, fun u _ => ?_⟩, ?_,
      fun _ h => absurd h List.not_mem_nil⟩
    · exact hother (t := []) (by decide)
    · exact hother (by decide)
    · exact hother (by decide)
    · rw [List.append_assoc]
      exact hother (by simp)
    · exact hother (by decide)

/-- The first word of the line of a return value is not that of a parameter. -/
theorem not_param_prefix_returnLine (r : Return) : ¬ "---@param ".toList <+: returnLine r := by
  rw [returnLine_eq, List.append_assoc]
  rintro ⟨t, ht⟩
  cases ht

/-- The lines for parameters and return values. -/
def recordLines (f : FunctionDoc) : List Text := f.parameters.map parameterLine ++ f.returns.map returnLine

theorem commentLines_eq_append (f : FunctionDoc) : commentLines f = proseLines f ++ recordLines f :=
  List.append_assoc ..

/-- Every record is written as an annotation. -/
theorem isAnnotation_of_mem_recordLines {f : FunctionDoc} (hf : f.IsLegible) :
    ∀ l ∈ recordLines f, IsAnnotation l := by
  have hparam : "---@".toList <+: "---@param ".toList := ⟨"param ".toList, rfl⟩
  have hreturn : "---@".toList <+: "---@return ".toList := ⟨"return ".toList, rfl⟩
  simp only [recordLines, List.forall_mem_append, List.forall_mem_map]
  exact ⟨fun p hp => hparam.trans (prefix_parameterLine (hf.parameters p hp).name.isContent),
    fun r _ => hreturn.trans (prefix_returnLine r)⟩

/-- Parameters and return values can be told from each other by their keywords. -/
theorem recordLines_inj {f g : FunctionDoc} (hf : f.IsLegible) (hg : g.IsLegible)
    (h : recordLines f = recordLines g) : f.parameters = g.parameters ∧ f.returns = g.returns := by
  have hparameters {e : FunctionDoc} (he : e.IsLegible) :
      ∀ l ∈ e.parameters.map parameterLine, "---@param ".toList <+: l := by
    simp only [List.forall_mem_map]
    exact fun p hp => prefix_parameterLine (he.parameters p hp).name.isContent
  have hreturns (e : FunctionDoc) :
      ∀ l, (e.returns.map returnLine).head? = some l → ¬ "---@param ".toList <+: l := by
    intro l hl
    obtain ⟨r, -, rfl⟩ := List.mem_map.1 (List.mem_of_mem_head? hl)
    exact not_param_prefix_returnLine r
  obtain ⟨hp, hr⟩ := append_inj_of_forall (hparameters hf) (hparameters hg) (hreturns f) (hreturns g) h
  exact ⟨eq_of_map_eq (fun p hp q hq => parameterLine_inj (hf.parameters p hp) (hg.parameters q hq)) hp,
    eq_of_map_eq (fun r hr s hs => returnLine_inj (hf.returns r hr) (hg.returns s hs)) hr⟩

/-- All parts of the documentation can be read from its comments. -/
theorem commentLines_inj {f g : FunctionDoc} (hf : f.IsLegible) (hg : g.IsLegible)
    (h : commentLines f = commentLines g) :
    f.long = g.long ∧ f.usage = g.usage ∧ f.parameters = g.parameters ∧ f.returns = g.returns := by
  have hfirst {e : FunctionDoc} (he : e.IsLegible) : ∀ l, (recordLines e).head? = some l → ¬ ¬ IsAnnotation l :=
    fun l hl => not_not.2 (isAnnotation_of_mem_recordLines he l (List.mem_of_mem_head? hl))
  rw [commentLines_eq_append, commentLines_eq_append] at h
  obtain ⟨hprose, hrecords⟩ := append_inj_of_forall (not_isAnnotation_of_mem_proseLines hf)
    (not_isAnnotation_of_mem_proseLines hg) (hfirst hf) (hfirst hg) h
  obtain ⟨hlong, husage⟩ := description_usage_inj hf hg hprose
  exact ⟨hlong, husage, recordLines_inj hf hg hrecords⟩

/-! ## Functions -/

/-- The name of a function can be read from its declaration. -/
theorem declarationLine_inj {owner n m : Identifier}
    (h : declarationLine owner n ++ "\n\n".toList = declarationLine owner m ++ "\n\n".toList) : n = m := by
  have hline := List.append_cancel_right (List.append_cancel_right h)
  obtain ⟨n⟩ := n
  obtain ⟨m⟩ := m
  rw [show n = m from List.append_cancel_left hline]

/-- The text of a function is its comment lines, its declaration and two newlines. -/
theorem function_eq_append (owner : Identifier) (f : FunctionDoc) :
    function owner f = Text.unlines (commentLines f) ++ (declarationLine owner f.name ++ "\n\n".toList) := by
  rw [function_eq, functionLines_eq_append, List.append_assoc, Text.unlines_append]
  simp

/-- **Unique reading.**  Two functions of a class that are legible and have the same stub agree in name, description,
    usage, parameters and return values: the stub loses none of them. -/
theorem function_inj {owner : Identifier} {f g : FunctionDoc} (hf : f.IsLegible) (hg : g.IsLegible)
    (h : function owner f = function owner g) :
    f.name = g.name ∧ f.long = g.long ∧ f.usage = g.usage ∧ f.parameters = g.parameters
      ∧ f.returns = g.returns := by
  have hcomments {e : FunctionDoc} (he : e.IsLegible) :
      ∀ l ∈ commentLines e, '\n' ∉ l ∧ l.head? = some '-' := by
    intro l hl
    obtain ⟨hn, t, rfl⟩ := he.comments l hl
    exact ⟨hn, rfl⟩
  -- the declaration begins with its keyword, so the comments end in front of it
  have hdeclaration (n : Identifier) : (declarationLine owner n ++ "\n\n".toList).head? ≠ some '-' := by
    show some 'f' ≠ some '-'
    decide
  rw [function_eq_append, function_eq_append] at h
  obtain ⟨hlines, hrest⟩ := Text.unlines_append_inj (hcomments hf) (hcomments hg) (hdeclaration f.name)
    (hdeclaration g.name) h
  exact ⟨declarationLine_inj hrest, commentLines_inj hf hg hlines⟩

/-- Two documentation texts that are written alike say the same: nothing is lost between a record and the
    stub, whatever the texts, names and short descriptions are. -/
theorem parts_eq_of_function_ofBlob_eq {owner n m : Identifier} {s t b c : Text} (hs : '\n' ∉ s) (ht : '\n' ∉ t)
    (hb : (FunctionDoc.ofBlob n s b).IsUnambiguous) (hc : (FunctionDoc.ofBlob m t c).IsUnambiguous)
    (h : function owner (.ofBlob n s b) = function owner (.ofBlob m t c)) :
    (FunctionDoc.ofBlob n s b).name = (FunctionDoc.ofBlob m t c).name
      ∧ (FunctionDoc.ofBlob n s b).long = (FunctionDoc.ofBlob m t c).long
      ∧ (FunctionDoc.ofBlob n s b).usage = (FunctionDoc.ofBlob m t c).usage
      ∧ (FunctionDoc.ofBlob n s b).parameters = (FunctionDoc.ofBlob m t c).parameters
      ∧ (FunctionDoc.ofBlob n s b).returns = (FunctionDoc.ofBlob m t c).returns :=
  function_inj (FunctionDoc.isLegible_ofBlob hs hb) (FunctionDoc.isLegible_ofBlob ht hc) h

/-- A documentation text with all sections. -/
def sampleBlob : Text :=
  "A\n\nB\nUsage:\n f()\nReturns:\nint\nParameters:\ncb\nfunc\n\nd".toList

/-- Another text of the same function: the sections stand in another order, and a type is written out. -/
def sampleOtherBlob : Text :=
  "  A\n B\nParameters:\ncb\nfunction\n\nd\nReturns:\ninteger\nUsage:\nf()\n".toList

theorem parts_eq_of_function_ofBlob_eq_sample :
    '\n' ∉ "S".toList ∧ '\n' ∉ "T".toList
      ∧ (FunctionDoc.ofBlob ⟨"F".toList⟩ "S".toList sampleBlob).IsUnambiguous
      ∧ (FunctionDoc.ofBlob ⟨"F".toList⟩ "T".toList sampleOtherBlob).IsUnambiguous
      ∧ function ⟨"A".toList⟩ (.ofBlob ⟨"F".toList⟩ "S".toList sampleBlob)
        = function ⟨"A".toList⟩ (.ofBlob ⟨"F".toList⟩ "T".toList sampleOtherBlob)
      ∧ (FunctionDoc.ofBlob ⟨"F".toList⟩ "S".toList sampleBlob).parameters
        = (FunctionDoc.ofBlob ⟨"F".toList⟩ "T".toList sampleOtherBlob).parameters := by
  have hs : '\n' ∉ "S".toList := by decide
  have ht : '\n' ∉ "T".toList := by decide
  have hb : (FunctionDoc.ofBlob ⟨"F".toList⟩ "S".toList sampleBlob).IsUnambiguous := by decide +kernel
  have hc : (FunctionDoc.ofBlob ⟨"F".toList⟩ "T".toList sampleOtherBlob).IsUnambiguous := by decide +kernel
  have h : function ⟨"A".toList⟩ (.ofBlob ⟨"F".toList⟩ "S".toList sampleBlob)
      = function ⟨"A".toList⟩ (.ofBlob ⟨"F".toList⟩ "T".toList sampleOtherBlob) := by decide +kernel
  exact ⟨hs, ht, hb, hc, h, (parts_eq_of_function_ofBlob_eq hs ht hb hc h).2.2.2.1⟩

end Stub

end DocStub

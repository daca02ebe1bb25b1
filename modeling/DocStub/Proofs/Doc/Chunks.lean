/-
  Every line of a section belongs to one record.

  1. **Chunks** — the lines of content of a section are cut into chunks, one for each record.  The relation
     `Chunks` has one rule for each shape of a chunk, and says which record the chunk gives.  Chunks that break
     off, and callbacks, have no rule that lets another one follow.  The rules have the short forms of types
     (`TypeTag.NamedBy`) and the spaces between the lines of a description written out.
  2. **There is a cut** — while a section is read, the lines of the record that was begun are pending (`Pending`).
     One induction on the lines that are left carries this, and closes a chunk whenever a record is
     complete (`exists_chunks`).
  3. **There is only one** — where a chunk ends can be seen from the lines alone, so chunks are what
     `chunksOf` makes of their lines (`Chunks.eq_chunksOf`).  And a chunk gives one record: a callback takes
     the raw lines behind its type, and these are found again from their content (`eq_of_contentOf_eq`).
  4. **Consequences** — which records can only be the last one, and what their types can be.
-/
import DocStub.Proofs.Doc.Records
import DocStub.Proofs.Text.Content
import Mathlib.Data.List.Nodup

namespace DocStub

open Text (IsContent IsToken contentLines isToken_of_isSeveralWords_eq_false)

namespace Text

/-- A token is one word. -/
theorem IsToken.not_words {t : Text} (h : IsToken t) : ¬ Text.isSeveralWords t = true := by
  rw [h.isSeveralWords]
  exact Bool.false_ne_true

/-! ## Places in lines -/

/-- Lines that begin with one that says something say more than those behind it. -/
theorem not_suffix_of_contentOf_eq {l : Text} {ks ls : List Text} (hl : trim l ≠ [])
    (h : contentOf ks = contentOf ls) : ¬ l :: ks <:+ ls := by
  rintro ⟨front, rfl⟩
  have hlength := congrArg List.length h
  rw [contentOf_append, contentOf_cons_of_ne_nil hl, List.length_append, List.length_cons] at hlength
  omega

/-- In a list of lines, a place behind a line that says something is known by the content behind it. -/
theorem eq_of_contentOf_eq {f f' ks ks' : List Text} {l l' : Text} (h : f ++ l :: ks = f' ++ l' :: ks')
    (hl : trim l ≠ []) (hl' : trim l' ≠ []) (hcontent : contentOf ks = contentOf ks') : ks = ks' := by
  have hks : l :: ks <:+ f' ++ l' :: ks' := ⟨f, h⟩
  have hks' : l' :: ks' <:+ f' ++ l' :: ks' := ⟨f', rfl⟩
  -- if the places differ, one is behind the other, and says less
  rcases List.suffix_or_suffix_of_suffix hks hks' with hin | hin
  · rcases List.suffix_cons_iff.1 hin with he | hin
    · exact (List.cons.inj he).2
    · exact absurd hin (not_suffix_of_contentOf_eq hl hcontent)
  · rcases List.suffix_cons_iff.1 hin with he | hin
    · exact (List.cons.inj he).2.symm
    · exact absurd hin (not_suffix_of_contentOf_eq hl' hcontent.symm)

end Text

open Text (contentOf)

/-! ## Names of types -/

namespace TypeTag

/-- The word names the type: it is a short form of it, or else no short form, and the type is written like the word. -/
inductive NamedBy (forms : List (Text × TypeTag)) (word : Text) : TypeTag → Prop where
  | short {type : TypeTag} : (word, type) ∈ forms → NamedBy forms word type
  | written : word ∉ forms.map (·.1) → NamedBy forms word (.ofText word)

/-- A word that is compared with three short forms, one after the other, names the type that comes out. -/
theorem namedBy_ite (a b c word : Text) (t u v : TypeTag) :
    NamedBy [(a, t), (b, u), (c, v)] word
      (if word = a then t else if word = b then u else if word = c then v else .ofText word) := by
  by_cases ha : word = a
  · rw [if_pos ha, ha]
    exact .short List.mem_cons_self
  by_cases hb : word = b
  · rw [if_neg ha, if_pos hb, hb]
    exact .short (by simp)
  by_cases hc : word = c
  · rw [if_neg ha, if_neg hb, if_pos hc, hc]
    exact .short (by simp)
  rw [if_neg ha, if_neg hb, if_neg hc]
  exact .written (by simp [ha, hb, hc])

section

variable {forms : List (Text × TypeTag)} {word : Text} {t u : TypeTag}

/-- A word names one type, if no short form stands for two. -/
theorem NamedBy.unique (hforms : (forms.map (·.1)).Nodup) (h : NamedBy forms word t) (h' : NamedBy forms word u) :
    t = u := by
  cases h with
  | short hmem =>
    cases h' with
    | short hmem' => exact (Prod.mk.inj (List.inj_on_of_nodup_map hforms hmem hmem' rfl)).2
    | written hnot => exact absurd (List.mem_map.2 ⟨_, hmem, rfl⟩) hnot
  | written hnot =>
    cases h' with
    | short hmem' => exact absurd (List.mem_map.2 ⟨_, hmem', rfl⟩) hnot
    | written => rfl

/-- Once one type is known that a word names, to name a type is to be that one. -/
theorem NamedBy.namedBy_iff_eq (hforms : (forms.map (·.1)).Nodup) (h : NamedBy forms word u) :
    NamedBy forms word t ↔ t = u := by
  constructor
  · intro ht
    exact ht.unique hforms h
  · rintro rfl
    exact h

/-- A short form is written out, if all of them are. -/
theorem NamedBy.text_not_mem (hforms : ∀ p ∈ forms, p.2.text ∉ forms.map (·.1)) (h : NamedBy forms word t) :
    t.text ∉ forms.map (·.1) := by
  cases h with
  | short hmem => exact hforms _ hmem
  | written hnot =>
    rw [text_ofText]
    exact hnot

/-- A word that says something names a type that says something. -/
theorem NamedBy.text_ne_nil (hforms : ∀ p ∈ forms, p.2.text ≠ []) (hne : word ≠ []) (h : NamedBy forms word t) :
    t.text ≠ [] := by
  cases h with
  | short hmem => exact hforms _ hmem
  | written =>
    rw [text_ofText]
    exact hne

end

end TypeTag

/-- What is not the last one is the first one, or is not the last one of the others. -/
theorem eq_or_mem_of_mem_dropLast_cons {α : Type} {x y : α} {ys : List α} (h : x ∈ (y :: ys).dropLast) :
    x = y ∨ x ∈ ys.dropLast := by
  cases ys with
  | nil => cases h
  | cons z zs => exact List.mem_cons.1 h

/-! ## Parameters -/

namespace Parameter

/-- The types that have a short form. -/
def typeForms : List (Text × TypeTag) :=
  [("func".toList, .function), ("int".toList, .integer), ("bool".toList, .boolean)]

/-- The type that is read from a word is the one that the word names. -/
theorem namedBy_iff {word : Text} {type : TypeTag} : TypeTag.NamedBy typeForms word type ↔ type = typeOf word := by
  have hread : TypeTag.NamedBy typeForms word (typeOf word) := TypeTag.namedBy_ite ..
  exact hread.namedBy_iff_eq (by decide)

/-- The parameters are read from these chunks of the content of the lines `raw`, in order. -/
inductive Chunks (raw : List Text) : List Parameter → List (List Text) → Prop where
  | nil : Chunks raw [] []
  | untyped {name description : Text} {ps : List Parameter} {cs : List (List Text)} :
      Text.isSeveralWords description = true → Chunks raw ps cs →
      Chunks raw (⟨name, .any, description⟩ :: ps) ([name, description] :: cs)
  | typed {name word description : Text} {type : TypeTag} {ps : List Parameter} {cs : List (List Text)} :
      IsToken word → TypeTag.NamedBy typeForms word type → type ≠ .function → Chunks raw ps cs →
      Chunks raw (⟨name, type, description⟩ :: ps) ([name, word, description] :: cs)
  | nameOnly {name : Text} : Chunks raw [⟨name, .any, []⟩] [[name]]
  | undescribed {name word : Text} {type : TypeTag} :
      IsToken word → TypeTag.NamedBy typeForms word type → type ≠ .function →
      Chunks raw [⟨name, type, []⟩] [[name, word]]
  | callback {name word line : Text} {rest front back : List Text} :
      IsToken word → TypeTag.NamedBy typeForms word .function →
      raw = front ++ line :: back → Text.trim line = word → contentOf back = rest →
      Chunks raw [⟨name, .function, back.flatMap fun l => ' ' :: Text.trim l⟩] [name :: word :: rest]

/-- The content of the text, cut into chunks, gives these parameters. -/
structure IsCut (s : Text) (ps : List Parameter) (cs : List (List Text)) : Prop where
  flatten : cs.flatten = contentLines s
  chunks : Chunks (Text.lines s) ps cs

/-! ### There is a cut -/

/-- The lines of the parameter that was begun. -/
inductive Expecting.Pending : Expecting → List Text → Prop where
  | name : Pending .name []
  | type {word : Text} : Pending (.type word) [word]
  | description {word type : Text} : IsToken type → typeOf type ≠ .function →
      Pending (.description word (typeOf type)) [word, type]

/-- When the lines end, those that are pending are a chunk of the record that breaks off. -/
theorem exists_chunks_ofUnfinished (raw : List Text) {e : Expecting} {pending : List Text}
    (h : e.Pending pending) : ∃ cs, Chunks raw (ofUnfinished e) cs ∧ cs.flatten = pending := by
  cases h with
  | name => exact ⟨[], .nil, rfl⟩
  | @type word => exact ⟨[[word]], .nameOnly, rfl⟩
  | @description word type htoken htype =>
    exact ⟨[[word, type]], .undescribed htoken (namedBy_iff.2 rfl) htype, rfl⟩

/-- The lines that are pending, and the content of those that are left, are cut into the chunks of the parameters
    that are still to be read. -/
theorem exists_chunks {raw front ks : List Text} {e : Expecting} {pending : List Text}
    (hraw : raw = front ++ ks) (h : e.Pending pending) :
    ∃ cs, Chunks raw (ofLines e ks) cs ∧ cs.flatten = pending ++ contentOf ks := by
  -- by the lines that are left; `front` grows with each one, for a callback is told from the raw lines
  induction ks generalizing front e pending with
  | nil =>
    obtain ⟨cs, hcs, hflatten⟩ := exists_chunks_ofUnfinished raw h
    exact ⟨cs, hcs, by rw [hflatten]; simp [contentOf]⟩
  | cons k ks ih =>
    have hrest : raw = (front ++ [k]) ++ ks := by rw [hraw]; simp
    by_cases hblank : Text.trim k = []
    · rw [ofLines_of_blank ks hblank, Text.contentOf_cons_of_eq_nil hblank]
      exact ih hrest h
    rw [Text.contentOf_cons_of_ne_nil hblank]
    cases h with
    | name =>
      rw [ofLines_at_name ks hblank]
      exact ih hrest .type
    | @type word =>
      by_cases hwords : Text.isSeveralWords (Text.trim k) = true
      · rw [ofLines_of_words ks hblank hwords]
        obtain ⟨cs, hcs, hflatten⟩ := ih hrest .name
        exact ⟨_, .untyped hwords hcs, by simp [hflatten]⟩
      · have hwords : Text.isSeveralWords (Text.trim k) = false := by simpa using hwords
        have htoken : IsToken (Text.trim k) :=
          isToken_of_isSeveralWords_eq_false hblank (Text.trim_trim k) hwords
        by_cases htype : typeOf (Text.trim k) = .function
        · rw [ofLines_of_function ks hblank hwords htype]
          exact ⟨_, .callback htoken (namedBy_iff.2 htype.symm) hraw rfl rfl, by simp⟩
        · rw [ofLines_of_type ks hblank hwords htype]
          obtain ⟨cs, hcs, hflatten⟩ := ih hrest (.description htoken htype)
          exact ⟨cs, hcs, by simp [hflatten]⟩
    | @description word type htoken htype =>
      rw [ofLines_at_description ks hblank]
      obtain ⟨cs, hcs, hflatten⟩ := ih hrest .name
      exact ⟨_, .typed htoken (namedBy_iff.2 rfl) htype hcs, by simp [hflatten]⟩

/-- Every section of parameters can be cut so that each record has its chunk. -/
theorem exists_isCut (s : Text) : ∃ cs, IsCut s (ofSection s) cs := by
  obtain ⟨cs, hcs, hflatten⟩ := @exists_chunks _ [] (Text.lines s) _ _ rfl Expecting.Pending.name
  exact ⟨cs, hflatten, hcs⟩

/-! ### There is only one cut -/

/-- The chunks of some lines, each seen from where it begins. -/
def chunksOf : List Text → List (List Text)
  | [] => []
  | [name] => [[name]]
  | name :: line :: ls =>
    if Text.isSeveralWords line then [name, line] :: chunksOf ls
    else if typeOf line = .function then [name :: line :: ls]
    else
      match ls with
      | [] => [[name, line]]
      | description :: ls => [name, line, description] :: chunksOf ls

/-- A line of prose behind a name ends the chunk. -/
theorem chunksOf_of_words {line : Text} (h : Text.isSeveralWords line = true) (name : Text) (ls : List Text) :
    chunksOf (name :: line :: ls) = [name, line] :: chunksOf ls := by
  cases ls <;> simp [chunksOf, h]

/-- A callback takes all lines behind it. -/
theorem chunksOf_of_function {line : Text} (h : Text.isSeveralWords line = false)
    (htype : typeOf line = .function) (name : Text) (ls : List Text) :
    chunksOf (name :: line :: ls) = [name :: line :: ls] := by
  cases ls <;> simp [chunksOf, h, htype]

/-- Where a chunk ends can be seen from the lines. -/
theorem Chunks.eq_chunksOf {raw : List Text} {ps : List Parameter} {cs : List (List Text)}
    (h : Chunks raw ps cs) : cs = chunksOf cs.flatten := by
  -- by the rules: the lines of each chunk tell which rule it was
  induction h with
  | nil => rfl
  | @untyped name description _ cs hwords _ ih =>
    show _ = chunksOf (name :: description :: cs.flatten)
    rw [chunksOf_of_words hwords, ← ih]
  | @typed name word description type _ cs htoken hnamed htype _ ih =>
    rw [namedBy_iff.1 hnamed] at htype
    show _ = chunksOf (name :: word :: description :: cs.flatten)
    simp [chunksOf, htoken.isSeveralWords, htype, ← ih]
  | nameOnly => rfl
  | undescribed htoken hnamed htype =>
    rw [namedBy_iff.1 hnamed] at htype
    simp [chunksOf, htoken.isSeveralWords, htype]
  | @callback name word _ rest _ _ htoken hnamed =>
    show _ = chunksOf (name :: word :: (rest ++ []))
    rw [chunksOf_of_function htoken.isSeveralWords (namedBy_iff.1 hnamed).symm, List.append_nil]

/-- A chunk gives one parameter. -/
theorem Chunks.unique {raw : List Text} {ps qs : List Parameter} {cs : List (List Text)}
    (hps : Chunks raw ps cs) (hqs : Chunks raw qs cs) : ps = qs := by
  -- two rules for the same lines would disagree about prose and words, or about the type that a word names
  induction hps generalizing qs with
  | nil =>
    cases hqs with
    | nil => rfl
  | untyped hwords _ ih =>
    cases hqs with
    | untyped _ hqs => rw [ih hqs]
    | undescribed htoken => exact absurd hwords htoken.not_words
    | callback htoken => exact absurd hwords htoken.not_words
  | typed _ hnamed htype _ ih =>
    cases hqs with
    | typed _ hnamed' _ hqs => rw [ih hqs, hnamed.unique (by decide) hnamed']
    | callback _ hnamed' => exact absurd (hnamed.unique (by decide) hnamed') htype
  | nameOnly =>
    cases hqs with
    | nameOnly => rfl
  | undescribed htoken hnamed htype =>
    cases hqs with
    | untyped hwords => exact absurd hwords htoken.not_words
    | undescribed _ hnamed' => rw [hnamed.unique (by decide) hnamed']
    | callback _ hnamed' => exact absurd (hnamed.unique (by decide) hnamed') htype
  | callback htoken hnamed hraw hline hback =>
    cases hqs with
    | untyped hwords => exact absurd hwords htoken.not_words
    | typed _ hnamed' htype => exact absurd (hnamed'.unique (by decide) hnamed) htype
    | undescribed _ hnamed' htype => exact absurd (hnamed'.unique (by decide) hnamed) htype
    | callback _ _ hraw' hline' hback' =>
      -- both cut the raw lines behind the same type, so they take the same rest
      have hne : Text.trim _ ≠ [] := hline ▸ htoken.ne_nil
      have hne' : Text.trim _ ≠ [] := hline' ▸ htoken.ne_nil
      rw [Text.eq_of_contentOf_eq (hraw.symm.trans hraw') hne hne' (hback.trans hback'.symm)]

/-- A section of parameters can be cut in one way only, and the cut determines the records. -/
theorem IsCut.unique {s : Text} {ps qs : List Parameter} {cs ds : List (List Text)} (hps : IsCut s ps cs)
    (hqs : IsCut s qs ds) : qs = ps ∧ ds = cs := by
  have hsame : ds = cs := by
    rw [hqs.chunks.eq_chunksOf, hps.chunks.eq_chunksOf, hqs.flatten, hps.flatten]
  subst hsame
  exact ⟨hqs.chunks.unique hps.chunks, rfl⟩

/-! ### Which parameter is the last, and what its type is -/

/-- A parameter that another one follows has a description, and is no callback. -/
theorem Chunks.of_mem_dropLast {raw : List Text} {ps : List Parameter} {cs : List (List Text)}
    (h : Chunks raw ps cs) (hne : ∀ l ∈ cs.flatten, l ≠ []) :
    ∀ p ∈ ps.dropLast, p.type ≠ .function ∧ p.description ≠ [] := by
  induction h with
  | nil => simp
  -- only these two rules have another chunk behind theirs
  | @untyped name description _ _ _ _ ih =>
    simp only [List.flatten_cons, List.forall_mem_append, List.forall_mem_cons] at hne
    obtain ⟨⟨-, hdescription, -⟩, hrest⟩ := hne
    intro p hp
    rcases eq_or_mem_of_mem_dropLast_cons hp with rfl | hp
    · exact ⟨TypeTag.noConfusion, hdescription⟩
    · exact ih hrest p hp
  | @typed name word description _ _ _ _ _ htype _ ih =>
    simp only [List.flatten_cons, List.forall_mem_append, List.forall_mem_cons] at hne
    obtain ⟨⟨-, -, hdescription, -⟩, hrest⟩ := hne
    intro p hp
    rcases eq_or_mem_of_mem_dropLast_cons hp with rfl | hp
    · exact ⟨htype, hdescription⟩
    · exact ih hrest p hp
  | nameOnly => simp
  | undescribed => simp
  | callback => simp

/-- The short forms of types. -/
def shortForms : List Text := ["func".toList, "int".toList, "bool".toList]

/-- A short form is written out. -/
theorem typeOf_not_mem_shortForms (token : Text) : (typeOf token).text ∉ shortForms := by
  have hnamed : TypeTag.NamedBy typeForms token (typeOf token) := namedBy_iff.2 rfl
  exact hnamed.text_not_mem (by decide)

/-- No parameter keeps a short form as its type. -/
theorem ReadFrom.not_mem_shortForms {ls : List Text} {p : Parameter} (h : p.ReadFrom ls) :
    p.type.text ∉ shortForms := by
  rcases h.type with hany | ⟨w, -, -, hw⟩
  · rw [hany]
    decide
  · rw [hw]
    exact typeOf_not_mem_shortForms w

/-- **Every line of a section belongs to one parameter.**  The content of a section can be cut into the chunks of
    its parameters, and there is no other cut, for these parameters or for others.  Only the last one can be
    a callback or lack a description; all have a name, and a type that is one word and no short form. -/
theorem ofSection_isCut_unique (s : Text) :
    (∃ cs, IsCut s (ofSection s) cs ∧ ∀ qs ds, IsCut s qs ds → qs = ofSection s ∧ ds = cs)
    ∧ (∀ p ∈ (ofSection s).dropLast, p.type ≠ .function ∧ p.description ≠ [])
    ∧ ∀ p ∈ ofSection s, p.name ≠ [] ∧ IsToken p.type.text ∧ p.type.text ∉ shortForms := by
  obtain ⟨cs, hcs⟩ := exists_isCut s
  have hcontent : ∀ l ∈ cs.flatten, l ≠ [] := by
    intro l hl
    rw [hcs.flatten] at hl
    exact (Text.isContent_of_mem_contentLines hl).ne_nil
  refine ⟨⟨cs, hcs, ?_⟩, hcs.chunks.of_mem_dropLast hcontent, ?_⟩
  · intro qs ds hds
    exact hcs.unique hds
  · intro p hp
    have hread : p.ReadFrom (Text.lines s) := readFrom_of_mem_ofSection p hp
    exact ⟨hread.name.1, hread.isToken_type, hread.not_mem_shortForms⟩

/-- Three parameters of different shapes; the callback takes a blank line too. -/
theorem ofSection_isCut_unique_sample :
    let s := "\n v\nas you like\nn\n int\r\ncount\ncb\nfunc\n\n one".toList
    let v : Parameter := ⟨"v".toList, .any, "as you like".toList⟩
    let cb : Parameter := ⟨"cb".toList, .function, "  one".toList⟩
    let ps := [v, ⟨"n".toList, .integer, "count".toList⟩, cb]
    let cs := [["v".toList, "as you like".toList], ["n".toList, "int".toList, "count".toList],
      ["cb".toList, "func".toList, "one".toList]]
    IsCut s ps cs ∧ ps = ofSection s ∧ (v.type ≠ .function ∧ v.description ≠ [])
      ∧ cb.name ≠ [] ∧ IsToken cb.type.text ∧ cb.type.text ∉ shortForms := by
  intro s v cb ps cs
  have hcallback : Chunks (Text.lines s) [cb] [["cb".toList, "func".toList, "one".toList]] :=
    @Chunks.callback _ _ _ "func".toList _ ((Text.lines s).take 7) [[], " one".toList]
      (by decide) (.short (by decide)) (by decide +kernel) (by decide) (by decide)
  have htyped : Chunks (Text.lines s) ps.tail cs.tail :=
    @Chunks.typed _ _ "int".toList _ _ _ _ (by decide) (.short (by decide)) (by decide) hcallback
  have hcut : IsCut s ps cs := ⟨by decide +kernel, .untyped (by decide) htyped⟩
  obtain ⟨⟨ds, hds, hunique⟩, hlast, htypes⟩ := ofSection_isCut_unique s
  obtain ⟨hps, -⟩ := hunique ps cs hcut
  rw [← hps] at hlast htypes
  exact ⟨hcut, hps, hlast v List.mem_cons_self, htypes cb (by simp [ps])⟩

end Parameter

/-! ## Return values -/

namespace Return

/-- The types that have a short form. -/
def typeForms : List (Text × TypeTag) :=
  [("the".toList, .string), ("bool".toList, .boolean), ("int".toList, .integer)]

/-- The type that is read from a word is the one that the word names. -/
theorem namedBy_iff {word : Text} {type : TypeTag} : TypeTag.NamedBy typeForms word type ↔ type = typeOf word := by
  have hread : TypeTag.NamedBy typeForms word (typeOf word) := TypeTag.namedBy_ite ..
  exact hread.namedBy_iff_eq (by decide)

/-- The return values are read from these chunks, in order. -/
inductive Chunks : List Return → List (List Text) → Prop where
  | nil : Chunks [] []
  | prose {line : Text} {rs : List Return} {cs : List (List Text)} :
      Text.isSeveralWords line = true → Chunks rs cs →
      Chunks (⟨.ofText (iteratorType line), line⟩ :: rs) ([line] :: cs)
  | typed {word description : Text} {type : TypeTag} {rs : List Return} {cs : List (List Text)} :
      IsToken word → TypeTag.NamedBy typeForms word type → Chunks rs cs →
      Chunks (⟨type, description⟩ :: rs) ([word, description] :: cs)
  | undescribed {word : Text} {type : TypeTag} : IsToken word → TypeTag.NamedBy typeForms word type →
      Chunks [⟨type, []⟩] [[word]]

/-- The content of the text, cut into chunks, gives these return values. -/
structure IsCut (s : Text) (rs : List Return) (cs : List (List Text)) : Prop where
  flatten : cs.flatten = contentLines s
  chunks : Chunks rs cs

/-! ### There is a cut -/

/-- The line of the return value that was begun. -/
inductive Pending : Option TypeTag → List Text → Prop where
  | none : Pending none []
  | type {word : Text} : IsToken word → Pending (some (typeOf word)) [word]

/-- If the pending lines and those that are left are content, they can be cut into chunks of the records read. -/
theorem exists_chunks {ls : List Text} {type : Option TypeTag} {pending : List Text}
    (hls : ∀ l ∈ ls, IsContent l) (h : Pending type pending) :
    ∃ cs, Chunks (ofLines type ls) cs ∧ cs.flatten = pending ++ ls := by
  -- by the lines; a line of several words is prose only where no type is pending
  induction ls generalizing type pending with
  | nil =>
    cases h with
    | none => exact ⟨[], .nil, rfl⟩
    | @type word htoken => exact ⟨[[word]], .undescribed htoken (namedBy_iff.2 rfl), rfl⟩
  | cons l ls ih =>
    obtain ⟨hl, hls⟩ := List.forall_mem_cons.1 hls
    cases h with
    | none =>
      rw [ofLines]
      split
      · next hwords =>
        obtain ⟨cs, hcs, hflatten⟩ := ih hls .none
        exact ⟨_, .prose hwords hcs, by simp [hflatten]⟩
      · next hwords =>
        have hwords : Text.isSeveralWords l = false := by simpa using hwords
        have htoken : IsToken l := isToken_of_isSeveralWords_eq_false hl.ne_nil hl.trimmed hwords
        obtain ⟨cs, hcs, hflatten⟩ := ih hls (.type htoken)
        exact ⟨cs, hcs, by simp [hflatten]⟩
    | @type word htoken =>
      rw [ofLines]
      obtain ⟨cs, hcs, hflatten⟩ := ih hls .none
      exact ⟨_, .typed htoken (namedBy_iff.2 rfl) hcs, by simp [hflatten]⟩

/-- Every section of return values can be cut so that each record has its chunk. -/
theorem exists_isCut (s : Text) : ∃ cs, IsCut s (ofSection s) cs := by
  obtain ⟨cs, hcs, hflatten⟩ :=
    exists_chunks (fun _ hl => Text.isContent_of_mem_contentLines (s := s) hl) Pending.none
  exact ⟨cs, hflatten, hcs⟩

/-! ### There is only one cut -/

/-- The chunks of some lines, each seen from where it begins. -/
def chunksOf : List Text → List (List Text)
  | [] => []
  | [line] => [[line]]
  | line :: description :: ls =>
    if Text.isSeveralWords line then [line] :: chunksOf (description :: ls)
    else [line, description] :: chunksOf ls

/-- A line of prose is a chunk by itself. -/
theorem chunksOf_of_words {line : Text} (h : Text.isSeveralWords line = true) (ls : List Text) :
    chunksOf (line :: ls) = [line] :: chunksOf ls := by
  cases ls <;> simp [chunksOf, h]

/-- Where a chunk ends can be seen from the lines. -/
theorem Chunks.eq_chunksOf {rs : List Return} {cs : List (List Text)} (h : Chunks rs cs) :
    cs = chunksOf cs.flatten := by
  induction h with
  | nil => rfl
  | @prose line _ cs hwords _ ih =>
    show _ = chunksOf (line :: cs.flatten)
    rw [chunksOf_of_words hwords, ← ih]
  | @typed word description _ _ cs htoken _ _ ih =>
    show _ = chunksOf (word :: description :: cs.flatten)
    simp [chunksOf, htoken.isSeveralWords, ← ih]
  | undescribed => rfl

/-- A chunk gives one return value. -/
theorem Chunks.unique {rs qs : List Return} {cs : List (List Text)} (hrs : Chunks rs cs)
    (hqs : Chunks qs cs) : rs = qs := by
  -- a line is prose or a word, and a word names one type
  induction hrs generalizing qs with
  | nil =>
    cases hqs with
    | nil => rfl
  | prose hwords _ ih =>
    cases hqs with
    | prose _ hqs => rw [ih hqs]
    | undescribed htoken => exact absurd hwords htoken.not_words
  | typed _ hnamed _ ih =>
    cases hqs with
    | typed _ hnamed' hqs => rw [ih hqs, hnamed.unique (by decide) hnamed']
  | undescribed htoken hnamed =>
    cases hqs with
    | prose hwords => exact absurd hwords htoken.not_words
    | undescribed _ hnamed' => rw [hnamed.unique (by decide) hnamed']

/-- A section of return values can be cut in one way only, and the cut determines the records. -/
theorem IsCut.unique {s : Text} {rs qs : List Return} {cs ds : List (List Text)} (hrs : IsCut s rs cs)
    (hqs : IsCut s qs ds) : qs = rs ∧ ds = cs := by
  have hsame : ds = cs := by
    rw [hqs.chunks.eq_chunksOf, hrs.chunks.eq_chunksOf, hqs.flatten, hrs.flatten]
  subst hsame
  exact ⟨hqs.chunks.unique hrs.chunks, rfl⟩

/-! ### What the type of a return value says -/

/-- The return value is a line of prose, and its type was taken from that line. -/
structure IsProse (r : Return) (chunk : List Text) : Prop where
  chunk : chunk = [r.description]
  words : Text.isSeveralWords r.description = true
  type : r.type = .ofText (iteratorType r.description)

/-- The short forms of types. -/
def shortForms : List Text := ["the".toList, "bool".toList, "int".toList]

/-- A type that is empty, or a short form, was not named by a word. -/
structure IsExplained (r : Return) (chunk : List Text) : Prop where
  empty : r.type.text = [] → IsProse r chunk ∧ iteratorType r.description = []
  short : r.type.text ∈ shortForms → IsProse r chunk

/-- A type that a word names is neither empty nor a short form. -/
theorem isExplained_of_namedBy {word : Text} {type : TypeTag} (h : IsToken word)
    (hnamed : TypeTag.NamedBy typeForms word type) (description : Text) (chunk : List Text) :
    IsExplained ⟨type, description⟩ chunk where
  empty hnil := absurd hnil (hnamed.text_ne_nil (by decide) h.ne_nil)
  short hmem := absurd hmem (hnamed.text_not_mem (by decide))

/-- A type that is empty, or a short form, comes from a line of prose. -/
theorem Chunks.isExplained {rs : List Return} {cs : List (List Text)} (h : Chunks rs cs) :
    List.Forall₂ IsExplained rs cs := by
  induction h with
  | nil => exact .nil
  | @prose line _ _ hwords _ ih =>
    have hprose : IsProse ⟨.ofText (iteratorType line), line⟩ [line] := ⟨rfl, hwords, rfl⟩
    refine .cons ⟨fun hnil => ⟨hprose, ?_⟩, fun _ => hprose⟩ ih
    rw [TypeTag.text_ofText] at hnil
    exact hnil
  | typed htoken hnamed _ ih => exact .cons (isExplained_of_namedBy htoken hnamed _ _) ih
  | undescribed htoken hnamed => exact .cons (isExplained_of_namedBy htoken hnamed _ _) .nil

/-- Only the last return value can lack a description, for it is the one that breaks off. -/
theorem Chunks.of_mem_dropLast {rs : List Return} {cs : List (List Text)} (h : Chunks rs cs)
    (hne : ∀ l ∈ cs.flatten, l ≠ []) : ∀ r ∈ rs.dropLast, r.description ≠ [] := by
  induction h with
  | nil => simp
  -- only these two rules have another chunk behind theirs
  | prose _ _ ih =>
    simp only [List.flatten_cons, List.forall_mem_append, List.forall_mem_cons] at hne
    obtain ⟨⟨hline, -⟩, hrest⟩ := hne
    intro r hr
    rcases eq_or_mem_of_mem_dropLast_cons hr with rfl | hr
    · exact hline
    · exact ih hrest r hr
  | typed _ _ _ ih =>
    simp only [List.flatten_cons, List.forall_mem_append, List.forall_mem_cons] at hne
    obtain ⟨⟨-, hdescription, -⟩, hrest⟩ := hne
    intro r hr
    rcases eq_or_mem_of_mem_dropLast_cons hr with rfl | hr
    · exact hdescription
    · exact ih hrest r hr
  | undescribed => simp

/-- **Every line of a section belongs to one return value.**  The content of a section can be cut into the chunks
    of its return values, and there is no other cut, for these return values or for others.  An empty type and
    a short form come from a line of prose, and only the last return value can lack a description. -/
theorem ofSection_isCut_explained (s : Text) :
    (∃ cs, IsCut s (ofSection s) cs ∧ (∀ qs ds, IsCut s qs ds → qs = ofSection s ∧ ds = cs)
      ∧ List.Forall₂ IsExplained (ofSection s) cs)
    ∧ ∀ r ∈ (ofSection s).dropLast, r.description ≠ [] := by
  obtain ⟨cs, hcs⟩ := exists_isCut s
  have hcontent : ∀ l ∈ cs.flatten, l ≠ [] := by
    intro l hl
    rw [hcs.flatten] at hl
    exact (Text.isContent_of_mem_contentLines hl).ne_nil
  constructor
  · refine ⟨cs, hcs, ?_, hcs.chunks.isExplained⟩
    intro qs ds hds
    exact hcs.unique hds
  · exact hcs.chunks.of_mem_dropLast hcontent

/-- A line of several words is prose, or the description of a type, and prose can give a short form. -/
theorem ofSection_isCut_explained_sample :
    let s := "\nan iterator of int\nint\nas many as there are\nnothing at all\nthe".toList
    let first : Return := ⟨.raw "int".toList, "an iterator of int".toList⟩
    let rs := [first, ⟨.integer, "as many as there are".toList⟩, ⟨.raw [], "nothing at all".toList⟩,
      ⟨.string, []⟩]
    let cs := [["an iterator of int".toList], ["int".toList, "as many as there are".toList],
      ["nothing at all".toList], ["the".toList]]
    IsCut s rs cs ∧ rs = ofSection s ∧ List.Forall₂ IsExplained rs cs ∧ first.description ≠ [] := by
  intro s first rs cs
  have hthe : Chunks [⟨.string, []⟩] [["the".toList]] :=
    @Chunks.undescribed "the".toList _ (by decide) (.short (by decide))
  have hnothing := @Chunks.prose "nothing at all".toList _ _ (by decide) hthe
  have hint :=
    @Chunks.typed "int".toList "as many as there are".toList .integer _ _ (by decide) (.short (by decide)) hnothing
  have hcut : IsCut s rs cs := ⟨by decide +kernel, @Chunks.prose "an iterator of int".toList _ _ (by decide) hint⟩
  obtain ⟨⟨ds, hds, hunique, hexplained⟩, hlast⟩ := ofSection_isCut_explained s
  obtain ⟨hrs, rfl⟩ := hunique rs cs hcut
  rw [← hrs] at hexplained hlast
  exact ⟨hcut, hrs, hexplained, hlast first List.mem_cons_self⟩

end Return

end DocStub

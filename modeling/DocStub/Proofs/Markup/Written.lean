/-
  Reading what was written as markup.

  1. **Writing** — `Write.escape` writes a text, with references for the characters that mean something in
     markup; `Write.startTag`, `Write.endTag` and `Write.element` write elements, with quoted attributes.
  2. **Runs** — a written text is read back as it was, up to what follows it (`decodeUntil_escape`): by
     induction on the text, since every character, written as itself or as a reference, is read in one
     step (`decodeUntil_escapeChar`).
  3. **Tags** — names are read up to what ends them, and attributes one after the other
     (`attrs?_flatMap_attr`); the list of those found grows at its end.
  4. **Tokens** — so the front of the input is the token that was written there (`next?_text`,
     `next?_startTag`, `next?_endTag`).
-/
import DocStub.Markup.Lexer

namespace DocStub.Markup

/-! ## Writing -/

/-- How a tag is written; empty for a tag without a constructor. -/
def Tag.written (tag : Tag) : Text := ((named.find? (·.2 == tag)).map (·.1.toList)).getD []

namespace Write

/-- A character as it is written in a text, or between quotation marks. -/
def escapeChar (quoted : Bool) (c : Char) : Text :=
  if c = '&' then "&amp;".toList
  else if c = '<' then "&lt;".toList
  else if quoted && c = '"' then "&quot;".toList
  else [c]

/-- A text as it is written. -/
def escape (quoted : Bool) (t : Text) : Text := t.flatMap (escapeChar quoted)

/-- An attribute with a blank in front. -/
def attr (a : Attr) : Text := ' ' :: (a.name ++ '=' :: '"' :: (escape true a.value ++ ['"']))

def startTag (tag : Tag) (attrs : List Attr) : Text := '<' :: (tag.written ++ attrs.flatMap attr ++ ['>'])

def endTag (tag : Tag) : Text := '<' :: '/' :: (tag.written ++ ['>'])

/-- An element with what is written in it. -/
def element (tag : Tag) (attrs : List Attr) (inside : Text) : Text :=
  startTag tag attrs ++ inside ++ endTag tag

/-- A text that is read as it is written: NUL is never shown, and a carriage return is a line end. -/
structure IsPlain (t : Text) : Prop where
  noNull : '\x00' ∉ t
  noReturn : '\r' ∉ t

instance (t : Text) : Decidable (IsPlain t) :=
  decidable_of_iff ('\x00' ∉ t ∧ '\r' ∉ t) ⟨fun h => ⟨h.1, h.2⟩, fun h => ⟨h.noNull, h.noReturn⟩⟩

/-- A name that is read as it is written. -/
def isName (n : Text) : Bool :=
  n.head?.any Char.isAlpha && n.all fun c => !(Lexer.endsName c || c = '=') && (Lexer.clean c).toLower == c

/-- Attributes that are read as they are written. -/
structure AreAttrs (attrs : List Attr) : Prop where
  nodup : (attrs.map (·.name)).Nodup
  isName : ∀ a ∈ attrs, isName a.name = true
  isPlain : ∀ a ∈ attrs, IsPlain a.value

theorem areAttrs_nil : AreAttrs [] where
  nodup := List.nodup_nil
  isName _ h := nomatch h
  isPlain _ h := nomatch h

/-- One attribute with a name and a plain value can be written in a tag. -/
theorem areAttrs_single {a : Attr} (hname : isName a.name = true) (hvalue : IsPlain a.value) :
    AreAttrs [a] where
  nodup := List.nodup_cons.2 ⟨List.not_mem_nil, List.nodup_nil⟩
  isName _ h := List.mem_singleton.1 h ▸ hname
  isPlain _ h := List.mem_singleton.1 h ▸ hvalue

end Write

/-- The tags that are written here. -/
def Write.tags : List Tag := [.a, .dd, .dl, .dt, .table, .td, .th, .tr]

/-- The names of the tags that are written are names of the markup. -/
theorem Tag.isName_written : ∀ {tag : Tag}, tag ∈ Write.tags → Write.isName tag.written = true := by
  decide +kernel

/-- Each of these names is read as its tag. -/
theorem Tag.ofName_written : ∀ {tag : Tag}, tag ∈ Write.tags → ofName tag.written = tag := by
  decide +kernel

/-! ## References -/

namespace CharRef

/-- A listed name is read with its `;`. -/
theorem decode?_named {n text : Text} (inAttribute : Bool) (hn : n.all Char.isAlphanum = true)
    (htext : named? n = some text) (r : Text) :
    decode? inAttribute (n ++ ';' :: r) = some ⟨text, r, false⟩ := by
  have hname := List.all_eq_true.1 hn
  -- a reference by number would begin with another character
  have hnumber (s : Text) : n ++ ';' :: r ≠ '#' :: s := by
    cases n with
    | nil => exact fun h => absurd (List.cons.inj h).1 (by decide)
    | cons c cs =>
      intro h
      have hc := hname c List.mem_cons_self
      rw [(List.cons.inj h).1] at hc
      exact absurd hc (by decide)
  rw [decode?, decodeName?, List.takeWhile_append_of_pos hname, List.dropWhile_append_of_pos hname,
    List.takeWhile_cons_of_neg (by decide), List.dropWhile_cons_of_neg (by decide), List.append_nil, htext]
  · rfl
  · exact fun _ => hnumber _
  · exact fun _ => hnumber _
  · exact hnumber

theorem decode?_amp (inAttribute : Bool) (r : Text) :
    decode? inAttribute ("amp;".toList ++ r) = some ⟨['&'], r, false⟩ :=
  decode?_named (n := "amp".toList) inAttribute (by decide) (by decide +kernel) r

theorem decode?_lt (inAttribute : Bool) (r : Text) :
    decode? inAttribute ("lt;".toList ++ r) = some ⟨['<'], r, false⟩ :=
  decode?_named (n := "lt".toList) inAttribute (by decide) (by decide +kernel) r

theorem decode?_quot (inAttribute : Bool) (r : Text) :
    decode? inAttribute ("quot;".toList ++ r) = some ⟨['"'], r, false⟩ :=
  decode?_named (n := "quot".toList) inAttribute (by decide) (by decide +kernel) r

end CharRef

namespace Lexer

open Write (escape escapeChar isName AreAttrs)
open CharRef (decode?)

/-! ## Runs -/

/-- What a character is written as begins with no sign of markup. -/
theorem escapeChar_eq_cons (quoted : Bool) (c : Char) :
    ∃ d s, escapeChar quoted c = d :: s ∧ d ≠ '<' ∧ (c ≠ '\x00' → d ≠ '\x00')
      ∧ (quoted = true → d ≠ '"') := by
  rw [escapeChar]
  split
  · exact ⟨'&', "amp;".toList, rfl, by decide, fun _ => by decide, fun _ => by decide⟩
  · split
    · exact ⟨'&', "lt;".toList, rfl, by decide, fun _ => by decide, fun _ => by decide⟩
    · next hlt =>
      split
      · exact ⟨'&', "quot;".toList, rfl, by decide, fun _ => by decide, fun _ => by decide⟩
      · next hquot => exact ⟨c, [], rfl, hlt, id, fun hq hc => hquot (by simp [hq, hc])⟩

theorem decodeUntil_nil {stop : Text → Bool} {inAttribute : Bool} :
    decodeUntil stop inAttribute [] = ([], []) := by
  rw [decodeUntil]

/-- A reference is read in one step. -/
theorem decodeUntil_reference {stop : Text → Bool} {inAttribute : Bool} {r : Text} {d : CharRef.Decoded}
    (hgo : stop ('&' :: r) = false) (hd : decode? inAttribute r = some d) :
    decodeUntil stop inAttribute ('&' :: r) = before d.text (decodeUntil stop inAttribute d.rest) := by
  rw [decodeUntil, if_neg (by rw [hgo]; exact Bool.false_ne_true), if_pos rfl]
  split
  · next d' hd' => rw [Option.some.inj (hd'.symm.trans hd)]
  · next hnone => exact absurd (hd.symm.trans hnone) (Option.some_ne_none d)

/-- A character that was escaped is decoded, if nothing stops the text there. -/
theorem decodeUntil_escapeChar {stop : Text → Bool} {quoted : Bool} (inAttribute : Bool) {c : Char}
    {r : Text} (hc : c ≠ '\x00') (hgo : stop (escapeChar quoted c ++ r) = false) :
    decodeUntil stop inAttribute (escapeChar quoted c ++ r)
      = before [c] (decodeUntil stop inAttribute r) := by
  rw [escapeChar] at hgo ⊢
  split at hgo
  · next h =>
    rw [if_pos h, h]
    exact decodeUntil_reference hgo (CharRef.decode?_amp inAttribute r)
  · next hamp =>
    rw [if_neg hamp]
    split at hgo
    · next h =>
      rw [if_pos h, h]
      exact decodeUntil_reference hgo (CharRef.decode?_lt inAttribute r)
    · next hlt =>
      rw [if_neg hlt]
      split at hgo
      · next h =>
        rw [if_pos h, show c = '"' by simp_all]
        exact decodeUntil_reference hgo (CharRef.decode?_quot inAttribute r)
      · next hquot =>
        -- any other character stands for itself, since it is not NUL
        rw [if_neg hquot, List.singleton_append, decodeUntil,
          if_neg (by rw [← List.singleton_append, hgo]; exact Bool.false_ne_true), if_neg hamp, clean,
          if_neg hc]

/-- A written text is read back as it was, up to the place where the run ends. -/
theorem decodeUntil_escape {stop : Text → Bool} {quoted : Bool} (inAttribute : Bool) {rest : Text}
    (hgo : ∀ c r, c ≠ '\x00' → stop (escapeChar quoted c ++ r) = false) (hend : stop rest = true)
    {t : Text} (ht : '\x00' ∉ t) :
    decodeUntil stop inAttribute (escape quoted t ++ rest) = (t, rest) := by
  induction t with
  | nil =>
    show decodeUntil stop inAttribute rest = _
    cases rest with
    | nil => exact decodeUntil_nil
    | cons c r => rw [decodeUntil, if_pos hend]
  | cons c t ih =>
    rw [List.mem_cons, not_or] at ht
    rw [escape, List.flatMap_cons, List.append_assoc,
      decodeUntil_escapeChar inAttribute (Ne.symm ht.1) (hgo c _ (Ne.symm ht.1)), ← escape, ih ht.2]
    rfl

/-- The value of an attribute ends at its quotation mark. -/
theorem attrValue_escape {v : Text} (hv : '\x00' ∉ v) (rest : Text) :
    attrValue ('"' :: (escape true v ++ '"' :: rest)) = (v, rest) := by
  have hgo (c : Char) (r : Text) (_ : c ≠ '\x00') :
      ((escapeChar true c ++ r).head? == some '"') = false := by
    obtain ⟨d, s, hds, -, -, hd⟩ := escapeChar_eq_cons true c
    rw [hds]
    exact beq_false_of_ne fun h => hd rfl (Option.some.inj h)
  rw [attrValue, decodeUntil_escape true hgo rfl hv]
  rfl

/-! ## Tags -/

section

variable {n : Text}

/-- A name begins with a letter. -/
theorem isName_cons (h : isName n = true) : ∃ c r, n = c :: r ∧ c.isAlpha = true := by
  rw [isName, Bool.and_eq_true] at h
  cases n with
  | nil => exact absurd h.1 Bool.false_ne_true
  | cons c r => exact ⟨c, r, rfl, h.1⟩

theorem ne_of_isAlpha {c d : Char} (hc : c.isAlpha = true) (hd : d.isAlpha = false) : c ≠ d := by
  rintro rfl
  exact Bool.false_ne_true (hd.symm.trans hc)

/-- The characters of a name are no ends of names, and are in small letters already. -/
theorem isName_mem (h : isName n = true) {c : Char} (hc : c ∈ n) :
    (!(endsName c || c = '=')) = true ∧ (clean c).toLower = c := by
  rw [isName, Bool.and_eq_true] at h
  have := List.all_eq_true.1 h.2 c hc
  rw [Bool.and_eq_true] at this
  exact ⟨this.1, eq_of_beq this.2⟩

theorem not_endsName_of_isName (h : isName n = true) {c : Char} (hc : c ∈ n) : (!endsName c) = true := by
  have := (isName_mem h hc).1
  rw [Bool.not_or, Bool.and_eq_true] at this
  exact this.1

/-- A name is read as it is written. -/
theorem nameOf_of_isName (h : isName n = true) : nameOf n = n :=
  (List.map_congr_left fun _ hc => (isName_mem h hc).2).trans n.map_id

end

/-- A written attribute behind its blank. -/
theorem attr_written {c : Char} {r : Text} {a : Attr} (hcr : a.name = c :: r) (hname : isName a.name = true)
    (hvalue : '\x00' ∉ a.value) (rest : Text) :
    attr c (r ++ '=' :: '"' :: (escape true a.value ++ '"' :: rest)) = (a, rest) := by
  have hr (d : Char) (hd : d ∈ r) : (!(endsName d || d = '=')) = true :=
    (isName_mem hname (hcr ▸ List.mem_cons_of_mem c hd)).1
  have htake : (r ++ '=' :: '"' :: (escape true a.value ++ '"' :: rest)).takeWhile
      (fun d => !(endsName d || d = '=')) = r := by
    rw [List.takeWhile_append_of_pos hr, List.takeWhile_cons_of_neg (by decide), List.append_nil]
  have hdrop : (r ++ '=' :: '"' :: (escape true a.value ++ '"' :: rest)).dropWhile
      (fun d => !(endsName d || d = '=')) = '=' :: '"' :: (escape true a.value ++ '"' :: rest) := by
    rw [List.dropWhile_append_of_pos hr, List.dropWhile_cons_of_neg (by decide)]
  rw [attr, htake, hdrop, List.dropWhile_cons_of_neg (by decide)]
  show ((⟨nameOf (c :: r), (attrValue (('"' :: _).dropWhile isSpace)).1⟩ : Attr), _) = _
  rw [List.dropWhile_cons_of_neg (by decide), attrValue_escape hvalue, ← hcr, nameOf_of_isName hname]

/-- Blanks between attributes are passed over. -/
theorem attrs?_blank (found : List Attr) (r : Text) : attrs? found (' ' :: r) = attrs? found r := by
  rw [attrs?, if_pos (by decide)]
  all_goals simp

/-- A character that begins the name of an attribute. -/
theorem attrs?_alpha (found : List Attr) {c : Char} (r : Text) (hc : c.isAlpha = true) :
    attrs? found (c :: r) = attrs? (addAttr found (attr c r).1) (attr c r).2 := by
  have hspace : isSpace c = false := by
    simp [isSpace, ne_of_isAlpha hc]
  rw [attrs?, if_neg (by simp [ne_of_isAlpha hc, hspace])]
  · exact ne_of_isAlpha hc rfl
  · exact fun _ h _ => ne_of_isAlpha hc rfl h

/-- Written attributes are found one after the other. -/
theorem attrs?_flatMap_attr {attrs : List Attr} :
    ∀ {found : List Attr}, AreAttrs attrs → (∀ a ∈ attrs, ∀ b ∈ found, b.name ≠ a.name) →
      ∀ rest, attrs? found (attrs.flatMap Write.attr ++ '>' :: rest) = some (found ++ attrs, false, rest) := by
  induction attrs with
  | nil =>
    intro found _ _ rest
    show attrs? found ('>' :: rest) = _
    rw [attrs?, List.append_nil]
  | cons a attrs ih =>
    intro found hattrs hfound rest
    have hname := hattrs.isName a List.mem_cons_self
    have hvalue := (hattrs.isPlain a List.mem_cons_self).noNull
    have hnodup := List.nodup_cons.1 hattrs.nodup
    obtain ⟨c, r, hcr, hc⟩ := isName_cons hname
    have hrest : AreAttrs attrs := ⟨hnodup.2, fun b hb => hattrs.isName b (List.mem_cons_of_mem a hb),
      fun b hb => hattrs.isPlain b (List.mem_cons_of_mem a hb)⟩
    -- a name that was found already would be passed over
    have hadd : addAttr found a = found ++ [a] := by
      refine if_neg fun h => ?_
      obtain ⟨b, hb, heq⟩ := List.any_eq_true.1 h
      exact hfound a List.mem_cons_self b hb (eq_of_beq heq)
    have hfound' : ∀ a' ∈ attrs, ∀ b ∈ found ++ [a], b.name ≠ a'.name := by
      intro a' ha' b hb
      rcases List.mem_append.1 hb with hb | hb
      · exact hfound a' (List.mem_cons_of_mem a ha') b hb
      · rw [List.mem_singleton.1 hb]
        exact fun h => hnodup.1 (List.mem_map.2 ⟨a', ha', h.symm⟩)
    have hwritten : (a :: attrs).flatMap Write.attr ++ '>' :: rest
        = ' ' :: c :: (r ++ '=' :: '"' :: (escape true a.value
            ++ '"' :: (attrs.flatMap Write.attr ++ '>' :: rest))) := by
      simp [List.flatMap_cons, Write.attr, hcr]
    rw [hwritten, attrs?_blank, attrs?_alpha found _ hc, attr_written hcr hname hvalue, hadd,
      ih hrest hfound', List.append_assoc]
    rfl

/-- What stands between the name of a tag and the rest of the input ends the name. -/
theorem tag_written (token : Tag → List Attr → Bool → Token) {tag : Tag} {attrs : List Attr}
    (htag : tag ∈ Write.tags) (hattrs : AreAttrs attrs) (rest : Text) :
    Lexer.tag token (tag.written ++ (attrs.flatMap Write.attr ++ '>' :: rest))
      = ([token tag attrs false], rest) := by
  have hname := Tag.isName_written htag
  have hchars (c : Char) (hc : c ∈ tag.written) : (!endsName c) = true := not_endsName_of_isName hname hc
  have hattrs? : attrs? [] (attrs.flatMap Write.attr ++ '>' :: rest) = some (attrs, false, rest) :=
    attrs?_flatMap_attr hattrs (fun _ _ b hb => absurd hb List.not_mem_nil) rest
  -- a blank in front of an attribute, or the end of the tag
  obtain ⟨c, r, hcr, hc⟩ : ∃ c r, attrs.flatMap Write.attr ++ '>' :: rest = c :: r ∧ endsName c = true := by
    cases attrs with
    | nil => exact ⟨'>', rest, rfl, by decide⟩
    | cons a attrs => exact ⟨' ', _, rfl, by decide⟩
  rw [hcr] at hattrs?
  rw [Lexer.tag, hcr, List.takeWhile_append_of_pos hchars, List.dropWhile_append_of_pos hchars,
    List.takeWhile_cons_of_neg (by simp [hc]), List.dropWhile_cons_of_neg (by simp [hc]), List.append_nil,
    hattrs?, nameOf_of_isName hname, Tag.ofName_written htag]

/-! ## Tokens -/

section

variable {verbatimAllowed : Bool} {tag : Tag} (htag : tag ∈ Write.tags) (rest : Text)

include htag

/-- A written start tag is the next token, with all its attributes. -/
theorem next?_startTag {attrs : List Attr} (hattrs : AreAttrs attrs) :
    next? .data verbatimAllowed (Write.startTag tag attrs ++ rest)
      = some ([.startTag tag attrs false], rest) := by
  obtain ⟨c, r, hcr, hc⟩ := isName_cons (Tag.isName_written htag)
  have hread := tag_written Token.startTag htag hattrs rest
  have hmarkup (s : Text) : beginsMarkup ('<' :: c :: s) = true := by
    unfold beginsMarkup
    split <;> simp_all
  have hwritten : Write.startTag tag attrs ++ rest
      = '<' :: (tag.written ++ (attrs.flatMap Write.attr ++ '>' :: rest)) := by
    simp [Write.startTag]
  -- the letter behind the bracket rules out end tags, comments and declarations
  rw [hwritten, next?, ← hread, hcr, List.cons_append, nextData, if_neg (by decide), if_pos (hmarkup _)]
  · rfl
  · exact fun _ h => ne_of_isAlpha hc rfl (List.cons.inj h).1
  · exact fun _ _ h => ne_of_isAlpha hc rfl (List.cons.inj h).1
  · exact fun _ h => ne_of_isAlpha hc rfl (List.cons.inj h).1
  · exact fun _ h => ne_of_isAlpha hc rfl (List.cons.inj h).1

/-- A written end tag is the next token. -/
theorem next?_endTag :
    next? .data verbatimAllowed (Write.endTag tag ++ rest) = some ([.endTag tag], rest) := by
  obtain ⟨c, r, hcr, hc⟩ := isName_cons (Tag.isName_written htag)
  have hread := tag_written (fun t _ _ => .endTag t) htag Write.areAttrs_nil rest
  have hwritten : Write.endTag tag ++ rest
      = '<' :: '/' :: (tag.written ++ (([] : List Attr).flatMap Write.attr ++ '>' :: rest)) := by
    simp [Write.endTag]
  rw [hwritten, next?, ← hread, hcr, List.cons_append, nextData, if_neg (by decide),
    if_pos (show beginsMarkup ('<' :: '/' :: c :: _) = true from rfl), if_pos hc]
  · rfl
  · exact fun h => ne_of_isAlpha hc rfl h

end

/-- No character of a text is written so that markup begins there. -/
theorem endsData_escapeChar (c : Char) (r : Text) (hc : c ≠ '\x00') :
    endsData (escapeChar false c ++ r) = false := by
  obtain ⟨d, s, hds, hlt, hnull, -⟩ := escapeChar_eq_cons false c
  have hmarkup : beginsMarkup (d :: (s ++ r)) = false := by
    unfold beginsMarkup
    split <;> simp_all
  rw [hds, List.cons_append, endsData, hmarkup, Bool.or_false]
  exact beq_false_of_ne fun h => hnull hc (Option.some.inj h)

/-- The references that are written are well formed. -/
theorem beginsFaulty_escapeChar (c : Char) (r : Text) : beginsFaulty (escapeChar false c ++ r) = false := by
  rw [escapeChar]
  split
  · show (decode? false ("amp;".toList ++ r)).any (·.faulty) = false
    rw [CharRef.decode?_amp]
    rfl
  · next hamp =>
    split
    · show (decode? false ("lt;".toList ++ r)).any (·.faulty) = false
      rw [CharRef.decode?_lt]
      rfl
    · rw [if_neg (by simp)]
      unfold beginsFaulty
      split <;> simp_all

/-- An escaped text is the next token, if a tag or the end follows. -/
theorem next?_text {verbatimAllowed : Bool} {t rest : Text} (hne : t ≠ []) (ht : '\x00' ∉ t)
    (hrest : endsData rest = true) :
    next? .data verbatimAllowed (escape false t ++ rest) = some ([.text t], rest) := by
  have hrun := decodeUntil_escape false endsData_escapeChar hrest ht
  obtain ⟨c, t', rfl⟩ := List.exists_cons_of_ne_nil hne
  have hwritten : escape false (c :: t') ++ rest = escapeChar false c ++ (escape false t' ++ rest) := by
    rw [escape, List.flatMap_cons, List.append_assoc, escape]
  have hgo := endsData_escapeChar c (escape false t' ++ rest) (fun h => ht (h ▸ List.mem_cons_self))
  have hfaulty := beginsFaulty_escapeChar c (escape false t' ++ rest)
  rw [← hwritten] at hgo hfaulty
  generalize escape false (c :: t') ++ rest = input at hrun hgo hfaulty
  -- the first character begins no markup, so the lexer reads data from here on
  cases input with
  | nil => exact absurd (hrun.symm.trans decodeUntil_nil) (by simp)
  | cons d s =>
    rw [endsData, Bool.or_eq_false_iff] at hgo
    have hdata : nextData verbatimAllowed d s = (textTokens (d :: s) (decodeUntil endsData false (d :: s)).1,
        (decodeUntil endsData false (d :: s)).2) := by
      unfold nextData
      rw [if_neg (by simpa using hgo.1), if_neg (by simp [hgo.2])]
    rw [next?, hdata, hrun, textTokens, if_neg (by simp [hfaulty])]

/-! ## Line ends -/

/-- A page without carriage returns is read as it is. -/
theorem unifyNewlines_eq_self {s : Text} (h : '\r' ∉ s) : unifyNewlines s = s := by
  induction s with
  | nil => rfl
  | cons c r ih =>
    rw [List.mem_cons, not_or] at h
    rw [unifyNewlines, ih h.2, if_neg (Ne.symm h.1)]
    exact fun _ hc _ => h.1 hc.symm

end Lexer

namespace Write

/-- Escaping brings in no carriage return. -/
theorem return_not_mem_escape {quoted : Bool} {t : Text} (h : '\r' ∉ t) : '\r' ∉ escape quoted t := by
  rw [escape, List.mem_flatMap]
  rintro ⟨c, hc, hmem⟩
  rw [escapeChar] at hmem
  split at hmem
  · exact absurd hmem (by decide)
  · split at hmem
    · exact absurd hmem (by decide)
    · split at hmem
      · exact absurd hmem (by decide)
      · exact h (List.mem_singleton.1 hmem ▸ hc)

theorem return_not_mem_of_isName {n : Text} (h : isName n = true) : '\r' ∉ n :=
  fun hmem => absurd (Lexer.not_endsName_of_isName h hmem) (by decide)

/-- No line end is written around what is written in an element. -/
theorem return_not_mem_element {tag : Tag} {attrs : List Attr} {inside : Text} (htag : tag ∈ tags)
    (hattrs : AreAttrs attrs) (hinside : '\r' ∉ inside) : '\r' ∉ element tag attrs inside := by
  have htag := return_not_mem_of_isName (Tag.isName_written htag)
  have hattr : '\r' ∉ attrs.flatMap attr := by
    rw [List.mem_flatMap]
    rintro ⟨a, ha, hmem⟩
    have hname := return_not_mem_of_isName (hattrs.isName a ha)
    have hvalue : '\r' ∉ escape true a.value := return_not_mem_escape (hattrs.isPlain a ha).noReturn
    simp [attr, hname, hvalue] at hmem
  simp [element, startTag, endTag, htag, hattr, hinside]

end Write

end DocStub.Markup

/-
  Reading characters into tokens.

  1. **Modes** — how text is read depends on the element it stands in.  Ordinary `data` holds tags and
     references; `titled` text (titles, text areas) holds references, but only its own end tag; `raw` text
     holds only its own end tag; `script` text hides its end tag inside nested script comments; `plain`
     text never ends.  The builder of the document decides the mode.
  2. **Runs** — a run of text becomes one token, references decoded.  A character NUL is a token of its
     own in `data` and the replacement character everywhere else.
  3. **Progress** — `next?` answers the tokens at the front of the input and the input behind them, which
     is always shorter (`length_lt_of_next?`).  A tag that the input breaks off in is dropped.

  Line ends are made uniform beforehand (`unifyNewlines`).
-/
import DocStub.Markup.CharRef
import DocStub.Markup.Token

namespace DocStub.Markup.Lexer

open CharRef (replacement decode? length_rest_of_decode? length_dropWhile_le)

/-! ## Characters -/

/-- The blanks of the markup language. -/
def isSpace (c : Char) : Bool :=
  c = ' ' || c = '\n' || c = '\t' || c = '\r' || c = '\x0c'

/-- The character NUL is never shown. -/
def clean (c : Char) : Char := if c = '\x00' then replacement else c

/-- Every line end, one character or two, becomes a newline. -/
def unifyNewlines : Text → Text
  | [] => []
  | '\r' :: '\n' :: r => '\n' :: unifyNewlines r
  | c :: r => (if c = '\r' then '\n' else c) :: unifyNewlines r

/-- A byte order mark at the front is no text. -/
def dropByteOrderMark : Text → Text
  | [] => []
  | c :: r => if c = Char.ofNat 0xFEFF then r else c :: r

/-! ## Runs of text

  A run is the text up to some place, and the input from that place on. -/

/-- Puts `cs` in front of a run. -/
def before (cs : Text) (run : Text × Text) : Text × Text := (cs ++ run.1, run.2)

@[simp] theorem before_fst (cs : Text) (run : Text × Text) : (before cs run).1 = cs ++ run.1 := rfl
@[simp] theorem before_snd (cs : Text) (run : Text × Text) : (before cs run).2 = run.2 := rfl

/-- The text before the place where `stop` holds, with references decoded, and the rest. -/
def decodeUntil (stop : Text → Bool) (inAttribute : Bool) : Text → Text × Text
  | [] => ([], [])
  | c :: r =>
    if stop (c :: r) then ([], c :: r)
    else if c = '&' then
      match _h : decode? inAttribute r with
      | some d => before d.text (decodeUntil stop inAttribute d.rest)
      | none => before ['&'] (decodeUntil stop inAttribute r)
    else before [clean c] (decodeUntil stop inAttribute r)
  termination_by s => s.length
  decreasing_by
  · have := length_rest_of_decode? _h; simp only [List.length_cons]; omega
  · simp
  · simp

/-- The text before the place where `stop` holds, as it stands, and the rest. -/
def copyUntil (stop : Text → Bool) : Text → Text × Text
  | [] => ([], [])
  | c :: r =>
    if stop (c :: r) then ([], c :: r) else before [clean c] (copyUntil stop r)

/-- Does a run of text begin with a character that an ill-written reference stands for? -/
def beginsFaulty : Text → Bool
  | '&' :: r => (decode? false r).any (·.faulty)
  | _ => false

/-- A decoded run as tokens: a fault at its front comes first. -/
def textTokens (input : Text) (run : Text) : List Token :=
  if beginsFaulty input then [.fault, .text run] else [.text run]

/-! ## Tags -/

/-- The characters that end a tag name. -/
def endsName (c : Char) : Bool := isSpace c || c = '/' || c = '>'

/-- Names are read in small letters. -/
def nameOf (s : Text) : Text := s.map fun c => (clean c).toLower

/-- The value of an attribute, given the text after `=` and any blanks. -/
def attrValue : Text → Text × Text
  | '"' :: r =>
    let v := decodeUntil (fun s => s.head? == some '"') true r
    (v.1, v.2.drop 1)
  | '\'' :: r =>
    let v := decodeUntil (fun s => s.head? == some '\'') true r
    (v.1, v.2.drop 1)
  | s => decodeUntil (fun s => s.head?.any fun c => isSpace c || c = '>') true s

/-- The attribute that begins at `c`, given the text after `c`. -/
def attr (c : Char) (r : Text) : Attr × Text :=
  let isInName := fun c => !(endsName c || c = '=')
  let name := nameOf (c :: r.takeWhile isInName)
  match (r.dropWhile isInName).dropWhile isSpace with
  | '=' :: s =>
    let v := attrValue (s.dropWhile isSpace)
    (⟨name, v.1⟩, v.2)
  | s => (⟨name, []⟩, s)

/-- Adds an attribute; of two with one name the first stands. -/
def addAttr (attrs : List Attr) (a : Attr) : List Attr :=
  if attrs.any (·.name == a.name) then attrs else attrs ++ [a]

/-! ### Reading on makes the input shorter -/

/-- Decoded text ends somewhere in the rest of the page. -/
theorem length_decodeUntil_le (stop : Text → Bool) (inAttribute : Bool) (s : Text) :
    (decodeUntil stop inAttribute s).2.length ≤ s.length := by
  fun_induction decodeUntil stop inAttribute s with
  | case1 => simp
  | case2 => simp
  | case3 r d hd _ ih =>
    have := length_rest_of_decode? hd
    simp only [before_snd, List.length_cons]; omega
  | case4 r _ hd ih => simp only [before_snd, List.length_cons]; omega
  | case5 c r _ _ ih => simp only [before_snd, List.length_cons]; omega

/-- A run that does not stop at once takes something away. -/
theorem length_decodeUntil_lt {stop : Text → Bool} {c : Char} {r : Text} (inAttribute : Bool)
    (h : stop (c :: r) = false) : (decodeUntil stop inAttribute (c :: r)).2.length < r.length + 1 := by
  rw [decodeUntil]
  simp only [h, Bool.false_eq_true, if_false]
  split
  · split
    · next d hd =>
      have := length_rest_of_decode? hd
      have := length_decodeUntil_le stop inAttribute d.rest
      simp only [before_snd]; omega
    · have := length_decodeUntil_le stop inAttribute r
      simp only [before_snd]; omega
  · have := length_decodeUntil_le stop inAttribute r
    simp only [before_snd]; omega

/-- Copied text ends somewhere in the rest of the page. -/
theorem length_copyUntil_le (stop : Text → Bool) (s : Text) :
    (copyUntil stop s).2.length ≤ s.length := by
  fun_induction copyUntil stop s with
  | case1 => simp
  | case2 => simp
  | case3 c r _ ih => simp only [before_snd, List.length_cons]; omega

/-- If the first character does not stop the copy, the copy takes at least that one. -/
theorem length_copyUntil_lt {stop : Text → Bool} {c : Char} {r : Text} (h : stop (c :: r) = false) :
    (copyUntil stop (c :: r)).2.length < r.length + 1 := by
  have := length_copyUntil_le stop r
  rw [copyUntil]
  simp only [h, Bool.false_eq_true, if_false, before_snd]; omega

/-- A value in quotes or without them is taken from the front. -/
theorem length_attrValue_le (s : Text) : (attrValue s).2.length ≤ s.length := by
  unfold attrValue
  split
  · next r =>
    have := length_decodeUntil_le (fun s => s.head? == some '"') true r
    simp only [List.length_drop, List.length_cons]; omega
  · next r =>
    have := length_decodeUntil_le (fun s => s.head? == some '\'') true r
    simp only [List.length_drop, List.length_cons]; omega
  · exact length_decodeUntil_le _ _ _

/-- An attribute takes its first character and maybe more. -/
theorem length_attr_le (c : Char) (r : Text) : (attr c r).2.length ≤ r.length := by
  have h : ((r.dropWhile fun c => !(endsName c || c = '=')).dropWhile isSpace).length ≤ r.length :=
    Nat.le_trans (length_dropWhile_le _ _) (length_dropWhile_le _ _)
  simp only [attr]
  split
  · next s hs =>
    rw [hs] at h
    have h1 := length_attrValue_le (s.dropWhile isSpace)
    have h2 := length_dropWhile_le isSpace s
    simp only [List.length_cons] at h
    simp only; omega
  · next hs => exact h

/-- The attributes of a tag up to its `>`, whether a `/` stands before the `>`, and the text behind;
    `none` if the input breaks off. -/
def attrs? (found : List Attr) : Text → Option (List Attr × Bool × Text)
  | [] => none
  | '>' :: r => some (found, false, r)
  | '/' :: '>' :: r => some (found, true, r)
  | c :: r =>
    if c = '/' || isSpace c then attrs? found r
    else attrs? (addAttr found (attr c r).1) (attr c r).2
  termination_by s => s.length
  decreasing_by
  · simp
  · have := length_attr_le c r; simp only [List.length_cons]; omega

/-- The attributes of a tag end with a character of their own, so the tag takes something. -/
theorem length_lt_of_attrs? {found as : List Attr} {s rest : Text} {closed : Bool}
    (h : attrs? found s = some (as, closed, rest)) : rest.length < s.length := by
  fun_induction attrs? found s with
  | case1 => exact absurd h (by simp)
  | case2 found r => simp only [Option.some.injEq, Prod.mk.injEq] at h; simp [h]
  | case3 found r =>
    simp only [Option.some.injEq, Prod.mk.injEq] at h
    simp only [List.length_cons, h]
    omega
  | case4 found c r _ _ _ ih => have := ih h; simp only [List.length_cons]; omega
  | case5 found c r _ _ _ ih =>
    have := ih h
    have := length_attr_le c r
    simp only [List.length_cons]; omega

/-- Reads a tag, given the text after `<` or `</`, and makes a token of it. -/
def tag (token : Tag → List Attr → Bool → Token) (s : Text) : List Token × Text :=
  let name := nameOf (s.takeWhile fun c => !endsName c)
  match attrs? [] (s.dropWhile fun c => !endsName c) with
  | some (as, closed, rest) => ([token (.ofName name) as closed], rest)
  | none => ([], [])

/-- Reads a start tag, given the text after `<`. -/
def startTag (s : Text) : List Token × Text := tag Token.startTag s

/-- Reads an end tag, given the text after `</`; its attributes mean nothing. -/
def endTag (s : Text) : List Token × Text := tag (fun t _ _ => .endTag t) s

/-! ## Comments and document types -/

/-- How far the end of a comment has been read. -/
inductive CommentEnd where
  | opening | openingDash | inside | dash | dashes | bang

/-- The text behind a comment, given the text after `<!--`. -/
def afterComment : CommentEnd → Text → Text
  | _, [] => []
  | at_, c :: r =>
    match at_, c with
    | .opening, '>' | .openingDash, '>' | .dashes, '>' | .bang, '>' => r
    | .opening, '-' => afterComment .openingDash r
    | .openingDash, '-' | .dash, '-' | .dashes, '-' => afterComment .dashes r
    | .inside, '-' | .bang, '-' => afterComment .dash r
    | .dashes, '!' => afterComment .bang r
    | _, _ => afterComment .inside r

/-- The text behind an ill-formed comment, which the first `>` ends. -/
def afterBogusComment (s : Text) : Text := (s.dropWhile (· != '>')).drop 1

/-- A quoted identifier of a document type: its text, whether it was closed, and the text behind. -/
def quotedId (quote : Char) (s : Text) : Text × Bool × Text :=
  let id := (s.takeWhile fun c => !(c = quote || c = '>')).map clean
  match s.dropWhile fun c => !(c = quote || c = '>') with
  | c :: r => if c = quote then (id, true, r) else (id, false, c :: r)
  | [] => (id, false, [])

/-- The system identifier of a document type, given the text in front of it. -/
def systemPart (d : Doctype) (required : Bool) (s : Text) : Doctype :=
  match s.dropWhile isSpace with
  | [] => { d with isBroken := true }
  | c :: r =>
    if c = '"' || c = '\'' then
      let id := quotedId c r
      { d with systemId := some id.1, isBroken := !id.2.1 }
    else if c = '>' then { d with isBroken := required }
    else { d with isBroken := true }

/-- The document type that `s`, the text after its keyword, describes. -/
def doctypeOf (s : Text) : Doctype :=
  let s := s.dropWhile isSpace
  let endsDoctypeName := fun c => isSpace c || c = '>'
  let name := nameOf (s.takeWhile fun c => !endsDoctypeName c)
  let bare : Doctype := ⟨name, none, none, false⟩
  match (s.dropWhile fun c => !endsDoctypeName c).dropWhile isSpace with
  | [] => { bare with isBroken := true }
  | '>' :: _ => { bare with isBroken := name.isEmpty }
  | r =>
    match Text.dropWordIgnoringCase? "public".toList r, Text.dropWordIgnoringCase? "system".toList r with
    | some r, _ =>
      match r.dropWhile isSpace with
      | [] => { bare with isBroken := true }
      | c :: r =>
        if c = '"' || c = '\'' then
          let id := quotedId c r
          if id.2.1 then systemPart { bare with publicId := some id.1 } false id.2.2
          else { bare with publicId := some id.1, isBroken := true }
        else { bare with isBroken := true }
    | none, some r => systemPart bare true r
    | none, none => { bare with isBroken := true }

/-! ## Embedded verbatim sections -/

/-- Puts the character `c` in front of the tokens of a verbatim section. -/
def addVerbatim (c : Char) : List Token → List Token
  | .text cs :: ts => if c = '\x00' then .null :: .text cs :: ts else .text (c :: cs) :: ts
  | ts => if c = '\x00' then .null :: ts else .text [c] :: ts

/-- The tokens of a verbatim section, given the text after its opening: no reference is decoded. -/
def verbatim : Text → List Token × Text
  | [] => ([], [])
  | ']' :: ']' :: '>' :: r => ([], r)
  | c :: r => (addVerbatim c (verbatim r).1, (verbatim r).2)

/-! ## Modes -/

/-- How text is read. -/
inductive Mode where
  | data
  | titled (owner : Tag)
  | raw (owner : Tag)
  | script
  | plain
  deriving DecidableEq, Repr

/-- Does `s` begin with the end tag of `owner`? -/
def closes (owner : Tag) : Text → Bool
  | '<' :: '/' :: r =>
    let name := r.takeWhile Char.isAlpha
    Tag.ofName (Text.asciiLower name) == owner && (r.dropWhile Char.isAlpha).head?.any endsName
  | _ => false

/-- Does markup begin at the front of `s`, in ordinary data? -/
def beginsMarkup : Text → Bool
  | '<' :: '/' :: _ :: _ => true
  | '<' :: c :: _ => c.isAlpha || c = '!' || c = '?'
  | _ => false

/-- Where a run of ordinary data ends. -/
def endsData (s : Text) : Bool := s.head? == some '\x00' || beginsMarkup s

/-- How deep a script stands in comments, and how many dashes have just been read. -/
inductive ScriptDepth where
  | code
  | comment (dashes : Nat)
  | nested (dashes : Nat)

/-- Does `s` begin with the word `script`, in any case, and the end of a name? -/
def namesScript (s : Text) : Bool :=
  Text.asciiLower (s.takeWhile Char.isAlpha) == "script".toList
    && (s.dropWhile Char.isAlpha).head?.any endsName

/-- The depth behind the character `c`, when `r` follows. -/
def ScriptDepth.after (c : Char) (r : Text) : ScriptDepth → ScriptDepth
  | code => if c = '<' && "!--".toList.isPrefixOf r then comment 0 else code
  | comment n =>
    if c = '-' then comment (n + 1)
    else if c = '>' && 2 ≤ n then code
    else if c = '<' && namesScript r then nested 0
    else comment 0
  | nested n =>
    if c = '-' then nested (n + 1)
    else if c = '>' && 2 ≤ n then code
    else if c = '<' && r.head? == some '/' && namesScript (r.drop 1) then comment 0
    else nested 0

/-- Nested scripts hide the end tag. -/
def ScriptDepth.isNested : ScriptDepth → Bool
  | nested _ => true
  | _ => false

/-- The text of a script before its end tag, and the rest. -/
def scriptText : ScriptDepth → Text → Text × Text
  | _, [] => ([], [])
  | depth, c :: r =>
    if !depth.isNested && closes .script (c :: r) then ([], c :: r)
    else before [clean c] (scriptText (depth.after c r) r)

/-! ## The next tokens -/

/-- The tokens at the front of a declaration, given the text after `<!`. -/
def declaration (verbatimAllowed : Bool) (s : Text) : List Token × Text :=
  match Text.dropPrefix? "--".toList s with
  | some r => ([.comment], afterComment .opening r)
  | none =>
    match Text.dropWordIgnoringCase? "doctype".toList s with
    | some r => ([.doctype (doctypeOf r)], afterBogusComment r)
    | none =>
      match verbatimAllowed, Text.dropPrefix? "[CDATA[".toList s with
      | true, some r => verbatim r
      | _, _ => ([.comment], afterBogusComment s)

/-- The tokens at the front of ordinary data. -/
def nextData (verbatimAllowed : Bool) (c : Char) (r : Text) : List Token × Text :=
  if c = '\x00' then ([.null], r)
  else if beginsMarkup (c :: r) then
    match r with
    | '/' :: '>' :: s => ([.fault], s)
    | '/' :: d :: s => if d.isAlpha then endTag (d :: s) else ([.comment], afterBogusComment (d :: s))
    | '!' :: s => declaration verbatimAllowed s
    | '?' :: s => ([.comment], afterBogusComment s)
    | s => startTag s
  else
    let run := decodeUntil endsData false (c :: r)
    (textTokens (c :: r) run.1, run.2)

/-- The tokens at the front of the input, and the input behind them; `none` at the end. -/
def next? (mode : Mode) (verbatimAllowed : Bool) (input : Text) : Option (List Token × Text) :=
  match mode, input with
  | _, [] => none
  | .data, c :: r => some (nextData verbatimAllowed c r)
  | .titled owner, c :: r =>
    if closes owner (c :: r) then some (endTag (r.drop 1))
    else
      let run := decodeUntil (closes owner) false (c :: r)
      some (textTokens (c :: r) run.1, run.2)
  | .raw owner, c :: r =>
    if closes owner (c :: r) then some (endTag (r.drop 1))
    else
      let run := copyUntil (closes owner) (c :: r)
      some ([.text run.1], run.2)
  | .script, c :: r =>
    if closes .script (c :: r) then some (endTag (r.drop 1))
    else
      let run := scriptText .code (c :: r)
      some ([.text run.1], run.2)
  | .plain, s => some ([.text (s.map clean)], [])

/-! ## Progress -/

/-- A tag takes something from every page that has something left. -/
theorem length_tag_lt {token : Tag → List Attr → Bool → Token} {s : Text} (h : s ≠ []) :
    (tag token s).2.length < s.length := by
  have hpos : 0 < s.length := List.length_pos_iff.2 h
  simp only [tag]
  split
  · next as closed rest ha =>
    have := length_lt_of_attrs? ha
    have := length_dropWhile_le (fun c => !endsName c) s
    simp only; omega
  · simpa using hpos

theorem length_tag_le (token : Tag → List Attr → Bool → Token) (s : Text) :
    (tag token s).2.length ≤ s.length := by
  cases s with
  | nil => simp [tag, attrs?]
  | cons c r => exact Nat.le_of_lt (length_tag_lt (by simp))

/-- What follows a comment is a part of the page. -/
theorem length_afterComment_le (at_ : CommentEnd) (s : Text) :
    (afterComment at_ s).length ≤ s.length := by
  fun_induction afterComment at_ s <;> simp only [List.length_nil, List.length_cons] <;> omega

theorem length_afterBogusComment_le (s : Text) : (afterBogusComment s).length ≤ s.length := by
  have := length_dropWhile_le (· != '>') s
  simp only [afterBogusComment, List.length_drop]; omega

theorem length_verbatim_le (s : Text) : (verbatim s).2.length ≤ s.length := by
  fun_induction verbatim s <;> simp_all only [List.length_nil, List.length_cons] <;> omega

/-- The text of a script ends somewhere in the rest of the page, at whatever depth it is. -/
theorem length_scriptText_le (depth : ScriptDepth) (s : Text) :
    (scriptText depth s).2.length ≤ s.length := by
  fun_induction scriptText depth s <;> simp_all only [before_snd, List.length_nil, List.length_cons] <;> omega

theorem length_dropPrefix? {w s r : Text} (h : Text.dropPrefix? w s = some r) :
    r.length ≤ s.length := by
  rw [Text.dropPrefix?_eq_some_iff] at h; simp [h]

theorem length_dropWordIgnoringCase? {w s r : Text} (h : Text.dropWordIgnoringCase? w s = some r) :
    r.length ≤ s.length := by
  unfold Text.dropWordIgnoringCase? at h
  split at h
  · cases h; simp
  · exact absurd h (by simp)

/-- A declaration, of whatever kind, is taken from the front. -/
theorem length_declaration_le (verbatimAllowed : Bool) (s : Text) :
    (declaration verbatimAllowed s).2.length ≤ s.length := by
  unfold declaration
  split
  · next r hr =>
    exact Nat.le_trans (length_afterComment_le _ _) (length_dropPrefix? hr)
  · split
    · next r hr =>
      exact Nat.le_trans (length_afterBogusComment_le _) (length_dropWordIgnoringCase? hr)
    · split
      · next r hr => exact Nat.le_trans (length_verbatim_le _) (length_dropPrefix? hr)
      · exact length_afterBogusComment_le _

/-- Outside of tags, too, every token takes at least one character: the page is read to its end. -/
theorem length_nextData_lt (verbatimAllowed : Bool) (c : Char) (r : Text) :
    (nextData verbatimAllowed c r).2.length < r.length + 1 := by
  unfold nextData
  split
  · simp
  · next hc =>
    split
    · split
      · simp; omega
      · next d s _ _ =>
        split
        · have := length_tag_le (fun t _ _ => .endTag t) (d :: s)
          simp only [List.length_cons] at this ⊢; simp only [endTag]; omega
        · have := length_afterBogusComment_le (d :: s)
          simp only [List.length_cons] at this ⊢; omega
      · next s _ =>
        have := length_declaration_le verbatimAllowed s
        simp only [List.length_cons]; omega
      · next s _ =>
        have := length_afterBogusComment_le s
        simp only [List.length_cons]; omega
      · have := length_tag_le Token.startTag r
        simp only [startTag]; omega
    · next hm =>
      exact length_decodeUntil_lt false (by simp_all [endsData])

/-- Every step leaves less to read. -/
theorem length_lt_of_next? {mode : Mode} {verbatimAllowed : Bool} {input rest : Text}
    {tokens : List Token} (h : next? mode verbatimAllowed input = some (tokens, rest)) :
    rest.length < input.length := by
  unfold next? at h
  split at h
  · exact absurd h (by simp)
  · next c r =>
    have := length_nextData_lt verbatimAllowed c r
    simp only [Option.some.injEq] at h
    rw [h] at this; simpa using this
  · next owner c r =>
    split at h
    · have := length_tag_le (fun t _ _ => .endTag t) (r.drop 1)
      simp only [Option.some.injEq] at h
      simp only [endTag] at h
      rw [h] at this; simp only [List.length_drop, List.length_cons] at this ⊢; omega
    · next hc =>
      simp only [Option.some.injEq, Prod.mk.injEq] at h
      rw [← h.2]; exact length_decodeUntil_lt false (by simpa using hc)
  · next owner c r =>
    split at h
    · have := length_tag_le (fun t _ _ => .endTag t) (r.drop 1)
      simp only [Option.some.injEq] at h
      simp only [endTag] at h
      rw [h] at this; simp only [List.length_drop, List.length_cons] at this ⊢; omega
    · next hc =>
      simp only [Option.some.injEq, Prod.mk.injEq] at h
      rw [← h.2]; exact length_copyUntil_lt (by simpa using hc)
  · next c r =>
    split at h
    · have := length_tag_le (fun t _ _ => .endTag t) (r.drop 1)
      simp only [Option.some.injEq] at h
      simp only [endTag] at h
      rw [h] at this; simp only [List.length_drop, List.length_cons] at this ⊢; omega
    · next hc =>
      have := length_scriptText_le (ScriptDepth.code.after c r) r
      simp only [Option.some.injEq, Prod.mk.injEq] at h
      rw [← h.2, scriptText]
      simp only [ScriptDepth.isNested, Bool.not_false, Bool.true_and, hc, if_false,
        List.length_cons, Bool.false_eq_true, before_snd]
      omega
  · next hs =>
    simp only [Option.some.injEq, Prod.mk.injEq] at h
    rw [← h.2]
    exact List.length_pos_iff.2 hs

end DocStub.Markup.Lexer

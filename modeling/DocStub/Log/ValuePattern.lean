/-
  Patterns for values.

  A directive may ask for the value of a field, by a number or by a pattern.  Nothing that is reported
  has such a value, so no pattern is ever matched; but a directive whose pattern is ill formed is no
  directive.

  1. **Modes** — a pattern may switch blanks and remarks on (`spaced`), and characters beyond ASCII off
     (`wide`); a mode lasts to the end of its group.
  2. **Items** — a pattern is a row of characters, signs behind a backslash, classes in square brackets,
     groups in round ones, alternatives, and marks that repeat what stands before them.
  3. **Reading** — `item?` reads one item off the front, and `isPattern` a text to its end.

  The text is a part of a directive, so it holds no comma, no equals sign and no closing brace.  Hence
  nothing that needs a closing brace is well formed.
-/
import DocStub.Text.Alphanumeric
import DocStub.Text.Blank
import DocStub.Text.Number

namespace DocStub.Log.ValuePattern

open Text (isHexDigit numberOf dropPrefix? cutAt? sameIgnoringCase)

/-! ## Modes -/

/-- How a part of a pattern is read. -/
structure Modes where
  /-- Blanks and remarks are left out. -/
  spaced : Bool
  /-- Classes hold characters of all scripts. -/
  wide : Bool
  deriving DecidableEq, Repr

/-- Leaves out blanks and remarks, which go from a number sign to the end of the line. -/
def skipSpaced (inRemark : Bool) : Text → Text
  | [] => []
  | c :: r =>
    if inRemark then skipSpaced (c != '\n') r
    else if isBlank c then skipSpaced false r
    else if c == '#' then skipSpaced true r
    else c :: r

/-- Leaves out what the modes leave out. -/
def Modes.skip (m : Modes) (s : Text) : Text := if m.spaced then skipSpaced false s else s

/-- A switch of a mode: its letter, and whether it stands behind the dash that switches modes off. -/
structure Switch where
  letter : Char
  isOff : Bool
  deriving DecidableEq, Repr

/-- Reads switches up to the colon or bracket that ends them.  No letter stands twice, and the dash stands
    at most once and not at the end. -/
def switches? (found : List Switch) (isOff : Bool) : Text → Option (List Switch × Char × Text)
  | [] => none
  | c :: r =>
    if c == ':' || c == ')' then if isOff && !found.any (·.isOff) then none else some (found, c, r)
    else if c == '-' then if isOff then none else switches? found true r
    else if "imsUuRx".toList.contains c && !found.any (·.letter == c) then
      switches? (⟨c, isOff⟩ :: found) isOff r
    else none

/-- The modes after switches. -/
def Modes.set (m : Modes) (found : List Switch) : Modes :=
  let value (letter : Char) (old : Bool) : Bool :=
    ((found.find? (·.letter == letter)).map (!·.isOff)).getD old
  ⟨value 'x' m.spaced, value 'u' m.wide⟩

/-! ## Signs behind a backslash -/

/-- What a sign means. -/
inductive Sign where
  /-- A character, by its code point. -/
  | character (code : Nat)
  /-- One of a kind of characters. -/
  | kind
  /-- A place between characters. -/
  | border
  deriving DecidableEq, Repr

/-- Control characters that are written as letters. -/
def controls : List (Char × Nat) :=
  [('a', 7), ('f', 12), ('t', 9), ('n', 10), ('r', 13), ('v', 11)]

/-- Reads a character that is written as a row of hexadecimal digits. -/
def coded? (length : Nat) (s : Text) : Option (Sign × Text) :=
  let digits := s.take length
  let n := numberOf 16 digits
  let isCharacter := n < 0xD800 || (0xDFFF < n && n ≤ 0x10FFFF)
  if digits.length = length && digits.all isHexDigit && isCharacter then
    some (.character n, s.drop length)
  else none

/-- Reads the sign behind a backslash.  The borders of words are known for ASCII only; the signs for all
    other characters, and the kinds by category, need all scripts. -/
def sign? (m : Modes) : Text → Option (Sign × Text)
  | [] => none
  | 'x' :: r => if m.wide || numberOf 16 (r.take 2) < 128 then coded? 2 r else none
  | 'u' :: r => coded? 4 r
  | 'U' :: r => coded? 8 r
  | c :: r =>
    if "pP".toList.contains c then
      match r with
      | [] => none
      | category :: r =>
        if m.wide && "clmnpsz".toList.contains category.toLower then some (.kind, r) else none
    else if "dsw".toList.contains c then some (.kind, r)
    else if "DSW".toList.contains c then if m.wide then some (.kind, r) else none
    else if "Az".toList.contains c then some (.border, r)
    else if "bB<>".toList.contains c then if m.wide then none else some (.border, r)
    else
      match controls.lookup c with
      | some n => some (.character n, r)
      | none => if c.toNat < 128 && !c.isAlphanum then some (.character c.toNat, r) else none

/-! ## Classes -/

/-- Reads a member of a class. -/
def member? (m : Modes) (s : Text) : Option (Sign × Text) :=
  let read :=
    match s with
    | [] => none
    | '\\' :: r => sign? m r
    | c :: r => some (.character c.toNat, r)
  read.filter fun p =>
    match p.1 with
    | .character n => m.wide || n < 128
    | .kind => true
    | .border => false

/-- Reads a member of a class or a range of characters, and answers what follows. -/
def range? (m : Modes) (s : Text) : Option Text :=
  (member? m s).bind fun (first, r) =>
    match m.skip r with
    | '-' :: r =>
      match m.skip r with
      | ']' :: _ | '-' :: _ => some ('-' :: r)
      | r =>
        match first, member? m r with
        | .character low, some (.character high, rest) => if low ≤ high then some rest else none
        | _, _ => none
    | r => some r

/-- The kinds of characters that have a name inside classes. -/
def namedKinds : List String :=
  ["alnum", "alpha", "ascii", "blank", "cntrl", "digit", "graph", "lower", "print", "punct", "space",
   "upper", "word", "xdigit"]

/-- Reads the name of a kind, behind a square bracket. -/
def namedKind? : Text → Option Text
  | ':' :: r =>
    match cutAt? [':'] ((dropPrefix? ['^'] r).getD r) with
    | some (name, ']' :: rest) => if namedKinds.any (·.toList == name) then some rest else none
    | _ => none
  | _ => none

/-- Reads the caret that turns a class around, behind its bracket; that needs all scripts. -/
def turn? (m : Modes) (s : Text) : Option Text :=
  match m.skip s with
  | '^' :: r => if m.wide then some r else none
  | r => some r

/-- How far a class has been read: at its beginning a closing bracket, and dashes, stand for
    themselves. -/
inductive Progress where
  | fresh
  | dashes
  | inside
  deriving DecidableEq, Repr

/-- Reads a class to its end, in so many steps, and answers what follows.  `depth` classes are open around
    it. -/
def class? (m : Modes) : Nat → Nat → Progress → Text → Option Text
  | 0, _, _, _ => none
  | steps + 1, depth, progress, s =>
    match progress, m.skip s with
    | _, [] => none
    | .fresh, ']' :: r => class? m steps depth .inside r
    | .fresh, '-' :: r => class? m steps depth .dashes r
    | .dashes, '-' :: r => class? m steps depth .dashes r
    | _, ']' :: r => if depth = 0 then some r else class? m steps (depth - 1) .inside r
    | _, '[' :: r =>
      match namedKind? r with
      | some rest => class? m steps depth .inside rest
      | none => (turn? m r).bind (class? m steps (depth + 1) .fresh)
    | _, '&' :: '&' :: r => class? m steps depth .inside r
    | _, '-' :: '-' :: r => class? m steps depth .inside r
    | _, '~' :: '~' :: r => class? m steps depth .inside r
    | _, r => (range? m r).bind (class? m steps depth .inside)

/-! ## Items -/

/-- A pattern that has been read to some place. -/
structure Reading where
  modes : Modes
  /-- The modes around the open groups, innermost first. -/
  outer : List Modes
  /-- The names of the groups so far. -/
  names : List Text
  /-- Does something stand here that can be repeated? -/
  repeats : Bool
  deriving DecidableEq, Repr

/-- Reads the name of a group, up to the closing angle bracket. -/
def groupName? (s : Text) : Option (Text × Text) :=
  (cutAt? ['>'] s).filter fun p =>
    match p.1 with
    | [] => false
    | c :: r =>
      (c == '_' || isAlphabetic c) && r.all fun c => "_.[]".toList.contains c || isAlphanumeric c

/-- Reads the beginning of a group, behind its bracket. -/
def group? (r : Reading) (s : Text) : Option (Reading × Text) :=
  let opened := { r with outer := r.modes :: r.outer, repeats := false }
  match r.modes.skip s with
  | '?' :: s =>
    match ((dropPrefix? ['P', '<'] s).or (dropPrefix? ['<'] s)) with
    | some s =>
      (groupName? s).bind fun (name, rest) =>
        if r.names.contains name then none else some ({ opened with names := name :: r.names }, rest)
    | none =>
      (switches? [] false s).bind fun (found, closing, rest) =>
        let modes := r.modes.set found
        if closing == ':' then some ({ opened with modes := modes }, rest)
        else if found.isEmpty then none
        else some ({ r with modes := modes, repeats := false }, rest)
  | s => some (opened, s)

/-- Reads one item off the front. -/
def item? (r : Reading) (s : Text) : Option (Reading × Text) :=
  let placed := { r with repeats := true }
  match s with
  | [] => none
  | c :: t =>
    match c with
    | '(' => group? r t
    | ')' => r.outer.head?.map fun m => ({ placed with modes := m, outer := r.outer.tail }, t)
    | '[' =>
      ((turn? r.modes t).bind (class? r.modes (t.length + 1) 0 .fresh)).map fun rest => (placed, rest)
    | '|' => some ({ r with repeats := false }, t)
    | '?' | '*' | '+' => if r.repeats then some (r, (dropPrefix? ['?'] t).getD t) else none
    | '\x7b' => none
    | '\\' => (sign? r.modes t).map fun p => (placed, p.2)
    | '.' => if r.modes.wide then some (placed, t) else none
    | _ => some (placed, t)

/-! ## Reading -/

/-- Can the rest of a pattern be read, in so many steps? -/
def readsOn : Nat → Reading → Text → Bool
  | 0, _, _ => false
  | steps + 1, r, s =>
    match r.modes.skip s with
    | [] => r.outer.isEmpty
    | s =>
      match item? r s with
      | some (r, rest) => readsOn steps r rest
      | none => false

/-- Is the text a well-formed pattern? -/
def isPattern (s : Text) : Bool := readsOn (s.length + 1) ⟨⟨false, true⟩, [], [], false⟩ s

/-- Does a row of digits, which may begin with a sign, stand here and nothing else? -/
def isExponent : Text → Bool
  | '+' :: r | '-' :: r => r != [] && r.all Char.isDigit
  | r => r != [] && r.all Char.isDigit

/-- Is the text a number without a sign, with or without decimal places and exponent? -/
def isNumber (s : Text) : Bool :=
  let whole := s.takeWhile Char.isDigit
  let (places, rest) :=
    match s.dropWhile Char.isDigit with
    | '.' :: r => (r.takeWhile Char.isDigit, r.dropWhile Char.isDigit)
    | r => ([], r)
  ["inf", "infinity", "nan"].any (fun w => sameIgnoringCase s w.toList)
    || (whole ++ places != []
      && match rest with
        | [] => true
        | c :: r => c.toLower == 'e' && isExponent r)

/-- Is this what a value may be asked for by: a pattern or a number?  A number without a plus sign is a
    pattern as well. -/
def isValid (s : Text) : Bool :=
  isPattern s
    || match s with
      | '+' :: r => isNumber r
      | _ => false

end DocStub.Log.ValuePattern

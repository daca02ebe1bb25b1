/-
  Patterns of file names.

  1. **Tokens** — a pattern is read into tokens: a character, one character of any kind (a question mark),
     any number of characters (a star), a class in square brackets, or any number of directories (two
     stars, which must be a piece of their own).
  2. **Errors** — a pattern that cannot be read is refused with a position, counted in characters.
  3. **Matching** — `Token.fits` decides whether a name matches; letters differ by case, and a leading
     dot is a character like any other.
  4. **Pieces** — a pattern applies to a path piece by piece.  The whole pattern has to be readable, and
     each piece by itself.
-/
import DocStub.Disk.Path

namespace DocStub

/-! ## Errors -/

/-- What is wrong in a pattern. -/
inductive PatternFault where
  | tooManyStars
  | starsBesideName
  | badClass
  deriving DecidableEq, Repr

/-- A fault and its position. -/
structure PatternError where
  position : Nat
  fault : PatternFault
  deriving DecidableEq, Repr

namespace PatternError

/-- The wording of a fault. -/
def reason : PatternFault → Text
  | .tooManyStars => "wildcards are either regular `*` or recursive `**`".toList
  | .starsBesideName => "recursive wildcards must form a single path component".toList
  | .badClass => "invalid range pattern".toList

/-- The wording of an error. -/
def message (e : PatternError) : Text :=
  "Pattern syntax error near position ".toList ++ Text.ofNat e.position ++ ": ".toList
    ++ reason e.fault

end PatternError

/-! ## Tokens -/

namespace Pattern

/-- The characters between two characters, both included. -/
structure Span where
  first : Char
  last : Char
  deriving DecidableEq, Repr

/-- The parts of a pattern. -/
inductive Token where
  | char (c : Char)
  | anyChar
  | anyText
  | anyDepth
  | oneOf (spans : List Span)
  | noneOf (spans : List Span)
  deriving DecidableEq, Repr

namespace Span

/-- Is the character in the span? -/
def holds (s : Span) (c : Char) : Bool := s.first ≤ c && c ≤ s.last

/-- Reads what stands between the brackets of a class. -/
def ofText : Text → List Span
  | [] => []
  | a :: '-' :: b :: r => ⟨a, b⟩ :: ofText r
  | a :: r => ⟨a, a⟩ :: ofText r

end Span

namespace Token

/-- Reads a class after its opening bracket; also gives what follows its closing one.  The first
character of the class may be a closing bracket itself. -/
def class? : Text → Option (Token × Text)
  | '!' :: x :: r => (Text.cutAt? [']'] r).map fun p => (noneOf (Span.ofText (x :: p.1)), p.2)
  | ['!'] => none
  | x :: r => (Text.cutAt? [']'] r).map fun p => (oneOf (Span.ofText (x :: p.1)), p.2)
  | [] => none

/-- What follows a class is shorter than what follows its opening bracket. -/
theorem length_lt_of_class? {s : Text} {p : Token × Text} (h : class? s = some p) :
    p.2.length < s.length := by
  unfold class? at h
  split at h <;> simp only [Option.map_eq_some_iff, reduceCtorEq] at h
  all_goals
    obtain ⟨q, hq, rfl⟩ := h
    have := congrArg List.length (Text.eq_of_cutAt? (by rw [hq] : _ = some (q.1, q.2)))
    simp only [List.length_append, List.length_cons, List.length_nil] at this ⊢
    omega

/-- Reads the rest of a pattern of `total` characters, of which `before` is the last one read. -/
def read (total : Nat) (before : Option Char) (s : Text) : Except PatternError (List Token) :=
  match s with
  | [] => .ok []
  | '?' :: r => (read total (some '?') r).map (anyChar :: ·)
  | '*' :: '*' :: '*' :: r => .error ⟨total - ('*' :: r).length, .tooManyStars⟩
  | '*' :: '*' :: r =>
    if before.all (· == '/') then
      match r with
      | [] => .ok [anyDepth]
      | '/' :: r' => (read total (some '/') r').map (anyDepth :: ·)
      | _ => .error ⟨total - r.length, .starsBesideName⟩
    else .error ⟨total - (r.length + 3), .starsBesideName⟩
  | '*' :: r => (read total (some '*') r).map (anyText :: ·)
  | '[' :: r =>
    match h : class? r with
    | some (token, rest) => (read total (some ']') rest).map (token :: ·)
    | none => .error ⟨total - (r.length + 1), .badClass⟩
  | c :: r => (read total (some c) r).map (char c :: ·)
termination_by s.length
decreasing_by
  all_goals first
    | (have shorter := length_lt_of_class? h; simp only [List.length_cons] at *; omega)
    | (simp only [List.length_cons]; omega)

/-- Reads a pattern. -/
def ofText (s : Text) : Except PatternError (List Token) := read s.length none s

/-! ## Matching -/

/-- Does a token that stands for one character accept this one? -/
def accepts : Token → Char → Bool
  | char x, c => x == c
  | anyChar, _ => true
  | oneOf spans, c => spans.any (·.holds c)
  | noneOf spans, c => !spans.any (·.holds c)
  | anyText, _ => false
  | anyDepth, _ => false

/-- Does a name match the tokens? -/
def fits : List Token → Text → Bool
  | [], name => name.isEmpty
  | anyText :: ts, [] => fits ts []
  | anyText :: ts, c :: r => fits ts (c :: r) || fits (anyText :: ts) r
  | _ :: _, [] => false
  | t :: ts, c :: r => t.accepts c && fits ts r
termination_by ts name => ts.length + name.length

/-- The name that the tokens spell, if they are characters only. -/
def spelled? : List Token → Option Text
  | [] => some []
  | char c :: ts => (spelled? ts).map (c :: ·)
  | _ => none

end Token

/-! ## Pieces -/

/-- A piece of a pattern. -/
inductive Piece where
  /-- A name without wildcards, or a piece that stays or goes up. -/
  | plain (name : Text)
  /-- Any number of directories. -/
  | anyDepth
  /-- Every name that matches. -/
  | wild (tokens : List Token)
  deriving DecidableEq, Repr

namespace Piece

/-- The piece that the tokens make. -/
def ofTokens (ts : List Token) : Piece :=
  match Token.spelled? ts with
  | some name => plain name
  | none => if ts.contains .anyDepth then anyDepth else wild ts

/-- Reads one piece of a pattern. -/
def ofText (s : Text) : Except PatternError Piece := (Token.ofText s).map ofTokens

/-- Does the piece allow this name? -/
def allows : Piece → Text → Bool
  | plain n, name => n == name
  | anyDepth, _ => true
  | wild ts, name => Token.fits ts name

end Piece

end Pattern

/-- A pattern of paths. -/
structure Pattern where
  rooted : Bool
  pieces : List Pattern.Piece
  deriving DecidableEq, Repr

namespace Pattern

/-- Reads a pattern.  Faults of the whole are found before faults of a piece. -/
def ofText (s : Text) : Except PatternError Pattern := do
  let _ ← Token.ofText s
  let rooted := Path.isRooted s
  let ps ← (Text.splitAt '/' (if rooted then s.tail else s)).mapM Piece.ofText
  return ⟨rooted, ps⟩

end Pattern

end DocStub

/-
  White space in running text.

  1. **The property** — `isBlank` is the Unicode property White_Space, 25 characters, written out.
  2. **Trimming** — `trimStart`, `trimEnd`, `trim` remove blanks at the ends.
  3. **Words** — `words s` are the maximal runs without a blank.  `isSeveralWords` tells a line of prose
     from a single word.
  4. **Collapsing** — `collapse` trims, and writes every inner run of blanks as one space.
-/
import DocStub.Text.Basic

namespace DocStub

/-- White space. -/
def isBlank (c : Char) : Bool :=
  let n := c.toNat
  (9 ≤ n && n ≤ 13) || n = 0x20 || n = 0x85 || n = 0xA0 || n = 0x1680 || (0x2000 ≤ n && n ≤ 0x200A)
    || n = 0x2028 || n = 0x2029 || n = 0x202F || n = 0x205F || n = 0x3000

namespace Text

/-! ## Trimming -/

def trimStart (s : Text) : Text := s.dropWhile isBlank

def trimEnd (s : Text) : Text := (s.reverse.dropWhile isBlank).reverse

/-- The text without the blanks at its two ends. -/
def trim (s : Text) : Text := trimEnd (trimStart s)

/-! ## Words -/

/-- The maximal runs of characters that are not blank, in order. -/
def words : Text → List Text
  | [] => []
  | c :: r =>
    if isBlank c then words r
    else
      match r, words r with
      | d :: _, w :: ws => if isBlank d then [c] :: w :: ws else (c :: w) :: ws
      | _, ws => [c] :: ws

/-- Does the text have at least two words? -/
def isSeveralWords (s : Text) : Bool := 2 ≤ (words s).length

/-! ## Collapsing -/

/-- Every run of blanks becomes one space; `inRun` tells whether a run has begun. -/
def squeeze (inRun : Bool) : Text → Text
  | [] => []
  | c :: r =>
    if isBlank c then if inRun then squeeze true r else ' ' :: squeeze true r
    else c :: squeeze false r

/-- The text on one line: trimmed, with single spaces. -/
def collapse (s : Text) : Text := squeeze false (trim s)

end Text

end DocStub

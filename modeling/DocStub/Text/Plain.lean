/-
  Text without what a terminal would obey.

  A terminal obeys control characters, and sequences that begin with an escape character.  `plain` leaves
  both out and keeps everything else; the four blanks among the control characters are kept, also
  inside a sequence of the first two kinds, where they interrupt it:

  1. an escape, any number of characters from the blank to the slash, and one character;
  2. an escape, a square bracket, characters up to the question mark, and one behind it;
  3. an escape, a closing square bracket, and anything up to a bell;
  4. an escape, one of four letters and signs, and anything at all.

  Another escape begins a new sequence, and two control characters cancel the one that is open.
-/
import DocStub.Text.Basic

namespace DocStub.Text

/-- Where a terminal stands in a sequence. -/
inductive Sequence where
  /-- In none. -/
  | outside
  /-- Behind the escape. -/
  | begun
  /-- Before the character that ends a sequence of the first kind. -/
  | short
  /-- In a sequence of the second kind. -/
  | control
  /-- In a sequence of the third kind, which a bell ends. -/
  | command
  /-- In a sequence of the fourth kind. -/
  | string
  deriving DecidableEq, Repr

namespace Sequence

/-- Where the terminal stands behind one more character. -/
def next (q : Sequence) (c : Char) : Sequence :=
  if c = '\x1b' then begun
  else if c = '\x18' || c = '\x1a' then outside
  else if c < ' ' || '\x7e' < c then if q = command && c = '\x07' then outside else q
  else
    match q with
    | begun =>
      if c < '0' then short
      else if c = '[' then control
      else if c = ']' then command
      else if "PX^_".toList.contains c then string
      else outside
    | short => if c < '0' then short else outside
    | control => if c < '@' then control else outside
    | q => q

/-- Is a character shown that comes there? -/
def shows (q : Sequence) (c : Char) : Bool :=
  let isBlankControl := c = '\t' || c = '\n' || c = '\x0c' || c = '\r'
  match q with
  | outside => isBlankControl || (' ' ≤ c && c ≠ '\x7f')
  | begun | short | control => isBlankControl
  | command | string => false

end Sequence

/-- What is shown of a text.  While characters are `shown`, the sequence `q` that a blank has interrupted
    is kept in mind; a control character takes it up again. -/
def plainFrom (q : Sequence) (shown : Bool) : Text → Text
  | [] => []
  | c :: r =>
    if (if shown then Sequence.outside else q).shows c then
      c :: plainFrom (if c.toNat < 128 then q else .outside) true r
    else plainFrom (q.next c) false r

/-- The text without control characters and sequences. -/
def plain (s : Text) : Text := plainFrom .outside false s

end DocStub.Text

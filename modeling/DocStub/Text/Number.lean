/-
  Numbers in running text.

  1. **Rows of digits** — `numberOf base` is the number that a row of digits writes, in bases up to
     sixteen.
  2. **Whole texts** — `number s` reads a text as one decimal number, which may begin with a plus sign and
     is bounded; a text that is none has a fault.
-/
import DocStub.Text.Basic

namespace DocStub

/-! ## Rows of digits -/

namespace Text

/-- The value of a digit in bases up to sixteen. -/
def digitValue (c : Char) : Nat :=
  if c.isDigit then c.toNat - '0'.toNat
  else if c.isLower then c.toNat - 'a'.toNat + 10
  else c.toNat - 'A'.toNat + 10

/-- A hexadecimal digit. -/
def isHexDigit (c : Char) : Bool :=
  c.isDigit || ('a' ≤ c && c ≤ 'f') || ('A' ≤ c && c ≤ 'F')

/-- The number that a row of digits writes. -/
def numberOf (base : Nat) (digits : Text) : Nat :=
  digits.foldl (fun n c => n * base + digitValue c) 0

end Text

/-! ## Whole texts -/

/-- Why a text is no number. -/
inductive NumberFault where
  | empty
  | badDigit
  | tooLarge
  deriving DecidableEq, Repr

namespace NumberFault

/-- The wording of a fault. -/
def message : NumberFault → Text
  | empty => "cannot parse integer from empty string".toList
  | badDigit => "invalid digit found in string".toList
  | tooLarge => "number too large to fit in target type".toList

end NumberFault

namespace Text

/-- Numbers are below this one. -/
def numberLimit : Nat := 18446744073709551616

/-- One more digit of a number.  The first character that does not fit decides the fault. -/
def addDigit (n : Nat) (c : Char) : Except NumberFault Nat :=
  if !c.isDigit then .error .badDigit
  else if numberLimit ≤ 10 * n + digitValue c then .error .tooLarge
  else .ok (10 * n + digitValue c)

/-- Reads a number, which may begin with a plus sign. -/
def number (s : Text) : Except NumberFault Nat :=
  match s with
  | [] => .error .empty
  | ['+'] => .error .badDigit
  | '+' :: r => r.foldlM addDigit 0
  | _ => s.foldlM addDigit 0

end Text

end DocStub

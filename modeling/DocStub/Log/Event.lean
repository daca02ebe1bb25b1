/-
  What a run reports while it works.

  An event has a level, the part of the program that it comes from, and a message.  Levels are ordered by
  `rank`: a higher rank says more.
-/
import DocStub.Text.Split

namespace DocStub

namespace Log

/-- How much an event matters. -/
inductive Level where
  | error
  | warn
  | info
  | debug
  | trace
  deriving DecidableEq, Repr

namespace Level

/-- The place of a level, from what must be said to what may be said. -/
def rank : Level → Nat
  | error => 1
  | warn => 2
  | info => 3
  | debug => 4
  | trace => 5

/-- The name of a level as it is printed. -/
def name : Level → String
  | error => "ERROR"
  | warn => "WARN"
  | info => "INFO"
  | debug => "DEBUG"
  | trace => "TRACE"

/-- The number of the terminal color of a level. -/
def color : Level → Nat
  | error => 31
  | warn => 33
  | info => 32
  | debug => 34
  | trace => 35

/-- A line in the color of a level, if colors are wanted. -/
def paint (level : Level) (colored : Bool) (line : Text) : Text :=
  if colored then "\x1b[".toList ++ Text.ofNat level.color ++ 'm' :: line ++ "\x1b[0m".toList else line

end Level

/-- The parts of the program that report. -/
inductive Part where
  | command
  | classes
  | pages
  deriving DecidableEq, Repr

namespace Part

/-- The name of a part, for the choice of what is shown.  Parts are named from the whole to the detail. -/
def path : Part → Text
  | command => "luastub".toList
  | classes => "luastub::pipeline".toList
  | pages => "luastub::scrape".toList

end Part

/-- One report. -/
structure Event where
  level : Level
  part : Part
  message : Text
  deriving DecidableEq, Repr

namespace Event

/-- A character of a message as it is written.  One that a terminal could obey becomes visible, by its
    code in hexadecimal digits. -/
def visible (c : Char) : Text :=
  let code := Nat.toDigits 16 c.toNat
  if "\x07\x08\x0c".toList.contains c then "\\x0".toList ++ code
  else if "\x1b\x7f".toList.contains c then "\\x".toList ++ code
  else if 0x80 ≤ c.toNat && c.toNat ≤ 0x9F then "\\u\x7b".toList ++ code ++ ['\x7d']
  else [c]

/-- The lines of an event: its level and its message, which may hold line breaks. -/
def lines (e : Event) : List Text :=
  Text.splitAt '\n' (e.level.name.toList ++ ' ' :: e.message.flatMap visible)

end Event

end Log

end DocStub

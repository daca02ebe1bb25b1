/-
  What can be wrong with a command line.
-/
import DocStub.Command.Option
import DocStub.Text.Number
import DocStub.Text.Plain

namespace DocStub

namespace Command

/-- What is wrong with a command line. -/
inductive UsageError where
  | unexpectedArgument (argument : Text)
  | unexpectedValue (value : Text) (switch : Switch)
  | valueMissing (setting : Setting)
  | badValue (value : Text) (setting : Setting) (fault : NumberFault)
  | repeated (option : Named)
  | conflict (first second : Switch)
  | settingMissing (setting : Setting)
  deriving DecidableEq, Repr

namespace UsageError

/-- The text between quotation marks. -/
def quoted (s : Text) : Text := '\'' :: s ++ ['\'']

/-- A text from the command line between quotation marks, without what a terminal would obey. -/
def cited (s : Text) : Text := quoted (Text.plain s)

/-- How messages call an option. -/
def display : Named → Text
  | .setting s => s.display
  | .switch s => s.display

/-- What is said about an error. -/
def reason : UsageError → Text
  | unexpectedArgument a => "unexpected argument ".toList ++ cited a ++ " found".toList
  | unexpectedValue v s =>
    "unexpected value ".toList ++ cited v ++ " for ".toList ++ quoted s.display
      ++ " found; no more were expected".toList
  | valueMissing s =>
    "a value is required for ".toList ++ quoted s.display ++ " but none was supplied".toList
  | badValue v s fault =>
    "invalid value ".toList ++ cited v ++ " for ".toList ++ quoted s.display ++ ": ".toList
      ++ fault.message
  | repeated o => "the argument ".toList ++ quoted (display o) ++ " cannot be used multiple times".toList
  | conflict a b =>
    "the argument ".toList ++ quoted a.display ++ " cannot be used with ".toList ++ quoted b.display
  | settingMissing s =>
    "the following required arguments were not provided:\n  ".toList ++ s.display

/-- The wording of an error. -/
def message (e : UsageError) : Text := "error: ".toList ++ e.reason

end UsageError

end Command

end DocStub

/-
  The options of the command line.

  A setting takes a value, a switch takes none.  `Options` is what all of them say together, and its
  default is what an empty command line says.
-/
import DocStub.Text.Basic

namespace DocStub

namespace Command

/-! ## Names -/

/-- The options that take a value. -/
inductive Setting where
  | output
  | userAgent
  | timeout
  | jobs
  | className
  | summary
  deriving DecidableEq, Repr

namespace Setting

/-- Every setting. -/
def all : List Setting := [output, userAgent, timeout, jobs, className, summary]

/-- The long name. -/
def long : Setting → Text
  | output => "output".toList
  | userAgent => "user-agent".toList
  | timeout => "timeout".toList
  | jobs => "jobs".toList
  | className => "class".toList
  | summary => "summary".toList

/-- The one-letter name. -/
def short? : Setting → Option Char
  | output => some 'o'
  | jobs => some 'j'
  | _ => none

/-- How messages call the value. -/
def valueName : Setting → Text
  | output => "OUTPUT".toList
  | userAgent => "USER_AGENT".toList
  | timeout => "TIMEOUT".toList
  | jobs => "JOBS".toList
  | className => "CLASS".toList
  | summary => "SUMMARY".toList

/-- How messages call the setting. -/
def display (s : Setting) : Text :=
  "--".toList ++ s.long ++ " <".toList ++ s.valueName ++ ">".toList

end Setting

/-- The options that take no value. -/
inductive Switch where
  | stdin
  | verbose
  | quiet
  | noColor
  | help
  deriving DecidableEq, Repr

namespace Switch

/-- Every switch. -/
def all : List Switch := [stdin, verbose, quiet, noColor, help]

/-- The long name. -/
def long : Switch → Text
  | stdin => "stdin".toList
  | verbose => "verbose".toList
  | quiet => "quiet".toList
  | noColor => "no-color".toList
  | help => "help".toList

/-- The one-letter name. -/
def short? : Switch → Option Char
  | verbose => some 'v'
  | quiet => some 'q'
  | help => some 'h'
  | _ => none

/-- How messages call the switch. -/
def display (s : Switch) : Text := "--".toList ++ s.long

end Switch

/-- A setting or a switch. -/
inductive Named where
  | setting (s : Setting)
  | switch (s : Switch)
  deriving DecidableEq, Repr

namespace Named

/-- The option with a long name. -/
def ofLong? (name : Text) : Option Named :=
  match Setting.all.find? (·.long == name) with
  | some s => some (setting s)
  | none => (Switch.all.find? (·.long == name)).map switch

/-- The option with a one-letter name. -/
def ofShort? (c : Char) : Option Named :=
  match Setting.all.find? (·.short? == some c) with
  | some s => some (setting s)
  | none => (Switch.all.find? (·.short? == some c)).map switch

end Named

/-! ## Meaning -/

/-- What the command line asks for. -/
structure Options where
  source : Text
  output : Text
  userAgent : Text
  timeout : Nat
  jobs : Nat
  /-- The class whose page comes from the standard input, if one does. -/
  inputClass : Option Text
  summary : Text
  verbose : Bool
  quiet : Bool
  noColor : Bool
  deriving DecidableEq, Repr

namespace Options

/-- What an empty command line asks for. -/
def default : Options where
  source := "https://lotj.github.io/lua-docs/".toList
  output := "LotJLuaAPI".toList
  userAgent :=
    "Mozilla/5.0 (Windows NT 10.0; Win64; x64) AppleWebKit/537.36 (KHTML, like Gecko) Chrome/108.0.0.0 Safari/537.36".toList
  timeout := 30
  jobs := 0
  inputClass := none
  summary := []
  verbose := false
  quiet := false
  noColor := false

end Options

end Command

end DocStub

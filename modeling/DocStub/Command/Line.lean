/-
  Reading a command line.

  1. **Options** — a setting takes its value from its own argument (`--jobs=2`, `-j2`, `-j=2`) or from the
     next one, which must not look like an option.  One-letter switches may share an argument.
  2. **Open settings** — a setting whose value comes from the next argument stays open until another option
     or the source is read, or the line ends; only then its value is examined.  So an argument that makes
     no sense is reported before a bad value in front of it.
  3. **The source** — is the one argument that is no option.  After a lone `--` every argument is one.
  4. **Agreement** — at the end the options have to agree with one another.
-/
import DocStub.Command.UsageError

namespace DocStub

namespace Command

/-- Why the reading of a command line ends before its options are known. -/
inductive Halt where
  | help
  | error (e : UsageError)
  deriving DecidableEq, Repr

/-- What was read of a command line. -/
structure Line where
  values : List (Setting × Text)
  /-- The switches, in the order in which they were given. -/
  switches : List Switch
  source : Option Text
  /-- The setting that is still open, and its value. -/
  openSetting : Option (Setting × Option Text)
  /-- Was there a lone `--`? -/
  optionsEnded : Bool
  deriving DecidableEq, Repr

namespace Line

/-- Nothing read yet. -/
def empty : Line := ⟨[], [], none, none, false⟩

/-! ## Options -/

/-- Is the value good for the setting? -/
def examine (s : Setting) (v : Text) : Except UsageError Unit :=
  match s with
  | .output => if v = [] then .error (.valueMissing s) else .ok ()
  | .timeout | .jobs =>
    match Text.number v with
    | .ok _ => .ok ()
    | .error fault => .error (.badValue v s fault)
  | _ => .ok ()

/-- Gives a setting its value. -/
def assign (l : Line) (s : Setting) (v : Text) : Except UsageError Line :=
  if (l.values.lookup s).isSome then .error (.repeated (.setting s))
  else (examine s v).map fun _ => { l with values := l.values ++ [(s, v)] }

/-- Closes the open setting. -/
def close (l : Line) : Except UsageError Line :=
  match l.openSetting with
  | none => .ok l
  | some (s, none) => .error (.valueMissing s)
  | some (s, some v) => { l with openSetting := none }.assign s v

/-- Closes the open setting and turns a switch on. -/
def turnOn (l : Line) (s : Switch) : Except Halt Line :=
  match l.close with
  | .error e => .error (.error e)
  | .ok l =>
    if s = .help then .error .help
    else if l.switches.contains s then .error (.error (.repeated (.switch s)))
    else .ok { l with switches := l.switches ++ [s] }

/-- Closes the open setting and gives another one its value. -/
def set (l : Line) (s : Setting) (v : Text) : Except Halt Line :=
  (l.close.bind (·.assign s v)).mapError .error

/-- Closes the open setting and opens another one. -/
def leaveOpen (l : Line) (s : Setting) : Except Halt Line :=
  (l.close.map fun l => { l with openSetting := some (s, none) }).mapError .error

/-! ## Arguments -/

/-- Reads an argument that is no option. -/
def positional (l : Line) (a : Text) : Except Halt Line :=
  match l.source with
  | some _ => .error (.error (.unexpectedArgument a))
  | none => (l.close.map fun l => { l with source := some a }).mapError .error

/-- Reads what follows the two dashes of a long option. -/
def long (l : Line) (a : Text) : Except Halt Line :=
  let name := a.takeWhile (· != '=')
  let value := a.dropWhile (· != '=')
  match Named.ofLong? name, value with
  | some (.setting s), [] => l.leaveOpen s
  | some (.setting s), _ :: v => l.set s v
  | some (.switch s), [] => l.turnOn s
  | some (.switch s), _ :: v => .error (.error (.unexpectedValue v s))
  | none, _ => .error (.error (.unexpectedArgument ("--".toList ++ name)))

/-- Reads what follows the dash of one-letter options. -/
def letters (l : Line) : Text → Except Halt Line
  | [] => .ok l
  | c :: r =>
    match Named.ofShort? c with
    | some (.switch s) =>
      match l.turnOn s with
      | .ok l => l.letters r
      | .error halt => .error halt
    | some (.setting s) =>
      match r with
      | [] => l.leaveOpen s
      | '=' :: v => l.set s v
      | v => l.set s v
    | none => .error (.error (.unexpectedArgument ['-', c]))

/-- Reads one argument. -/
def add (l : Line) (a : Text) : Except Halt Line :=
  if l.optionsEnded then l.positional a
  else
    match a with
    | ['-', '-'] => .ok { l with optionsEnded := true }
    | '-' :: '-' :: r => l.long r
    | '-' :: c :: r => l.letters (c :: r)
    | _ =>
      match l.openSetting with
      | some (s, none) => .ok { l with openSetting := some (s, some a) }
      | _ => l.positional a

/-! ## Agreement -/

/-- The options of a line that was read to its end, if they agree. -/
def options (l : Line) : Except UsageError Options :=
  let on (s : Switch) : Bool := l.switches.contains s
  let value (s : Setting) (unset : Text) : Text := (l.values.lookup s).getD unset
  let count (s : Setting) (unset : Nat) : Nat :=
    ((l.values.lookup s).bind fun v => (Text.number v).toOption).getD unset
  match l.switches.filter (fun s => s = .verbose || s = .quiet) with
  | a :: b :: _ => .error (.conflict a b)
  | _ =>
    if on .stdin && (l.values.lookup .className).isNone then .error (.settingMissing .className)
    else
      .ok
        { source := l.source.getD Options.default.source
          output := value .output Options.default.output
          userAgent := value .userAgent Options.default.userAgent
          timeout := count .timeout Options.default.timeout
          jobs := count .jobs Options.default.jobs
          inputClass := if on .stdin then l.values.lookup .className else none
          summary := value .summary Options.default.summary
          verbose := on .verbose
          quiet := on .quiet
          noColor := on .noColor }

end Line

namespace Options

/-- Reads the arguments of the program. -/
def ofArguments (args : List Text) : Except Halt Options :=
  match args.foldlM Line.add Line.empty with
  | .error halt => .error halt
  | .ok l => (l.close.bind Line.options).mapError .error

end Options

end Command

end DocStub

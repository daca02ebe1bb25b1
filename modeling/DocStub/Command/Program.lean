/-
  What the program does.

  1. **Input mode** — the page of one class comes from the standard input and its stub goes to the standard
     output.  Nothing is printed unless the whole stub is there.
  2. **Site mode** — the index of a source is read and the stub of every class is written.  The output
     directory is not touched before there is something to write.  Classes that fail do not stop the others,
     but they make the program fail in the end.
  3. **A run** — `Program.run` reads the command line, chooses what is shown, and works in one of the modes.
-/
import DocStub.Command.Failed
import DocStub.Command.Help
import DocStub.Command.Line
import DocStub.Log.Filter
import DocStub.Site.Run

namespace DocStub

namespace Command

/-! ## Input mode -/

/-- The stub of the class page in the input. -/
def inputStub (className summary : Text) (input : List UInt8) : Except Failed Text :=
  match Text.decodeUtf8? input with
  | none => .error .badInput
  | some page =>
    let header : ClassHeader := ⟨.normalize className, Text.collapse summary⟩
    match (ClassPage.ofText page).functions header.name with
    | .error failure => .error (.badPage failure)
    | .ok functions => .ok (Stub.ofClass header functions)

/-! ## Site mode -/

/-- What came of a site: the disk, the reports, and why the program fails, if it does. -/
structure SiteResult where
  disk : Disk
  events : List Log.Event
  failed? : Option Failed
  deriving DecidableEq, Repr

/-- The report on the index. -/
def indexEvent (source : Text) (classes : List ClassEntry) : Log.Event :=
  ⟨.info, .command, "found ".toList ++ Text.ofNat classes.length ++ " classes in ".toList ++ source⟩

/-- The report on all stubs. -/
def totalEvent (output : Text) (outcomes : List Outcome) : Log.Event :=
  ⟨.info, .command,
    "wrote ".toList ++ Text.ofNat outcomes.length ++ " stubs with ".toList
      ++ Text.ofNat (Outcome.totalFunctions outcomes) ++ " functions to ".toList ++ output⟩

/-- The reports on the failures of a class. -/
def failureEvents (o : Outcome) : List Log.Event :=
  o.failures.map fun failure =>
    ⟨.error, .command, o.name.text ++ ": ".toList ++ failure.message⟩

/-- Does a finished run make the program fail? -/
def verdict (outcomes : List Outcome) : Option Failed :=
  let failed := outcomes.filter (!·.failures.isEmpty)
  if failed.isEmpty then none else some (.someClasses failed.length outcomes.length)

/-- Writes the stubs of the classes of an index. -/
def writeStubs (w : Web) (s : Source) (o : Options) (d : Disk) (classes : List ClassEntry) :
    SiteResult :=
  match Run.ofClasses w s o.output d classes with
  | (d', .error e) => ⟨d', [], some (.notPrepared e)⟩
  | (d', .ok r) =>
    ⟨d', r.events ++ [totalEvent o.output r.outcomes] ++ r.outcomes.flatMap failureEvents,
      verdict r.outcomes⟩

/-- Reads the index of a source and writes the stub of every class. -/
def site (w : Web) (o : Options) (d : Disk) : SiteResult :=
  let s := Source.ofText o.source
  match s.fetch w d [] with
  | .error failure => ⟨d, [s.event []], some (.noIndex o.source failure)⟩
  | .ok index =>
    let classes := Index.entries index
    if classes.isEmpty then ⟨d, [s.event []], some (.noClasses o.source)⟩
    else
      let r := writeStubs w s o d classes
      { r with events := [s.event [], indexEvent o.source classes] ++ r.events }

/-! ## A run of the program -/

/-- What the program is started with. -/
structure Call where
  arguments : List Text
  input : List UInt8
  /-- What the environment says about the events to show. -/
  logging : Option Text
  /-- Does the environment ask for no colours? -/
  colorless : Bool
  disk : Disk
  deriving DecidableEq, Repr

/-- What the program leaves behind. -/
structure Result where
  code : Nat
  output : Text
  /-- The events that are shown. -/
  events : List Log.Event
  colored : Bool
  /-- The last words on the error output; empty if all went well. -/
  report : Text
  disk : Disk
  deriving DecidableEq, Repr

namespace Result

/-- The report of the program, and the exit code that goes with it. -/
def ending : Option Failed → Nat × Text
  | none => (0, [])
  | some f => (1, f.report)

end Result

namespace Program

/-- Works with options that were read. -/
def perform (w : Web) (c : Call) (o : Options) : Result :=
  match o.inputClass with
  | some className =>
    match inputStub className o.summary c.input with
    | .ok stub => ⟨0, stub, [], false, [], c.disk⟩
    | .error f => ⟨1, [], [], false, f.report, c.disk⟩
  | none =>
    let r := site w o c.disk
    let shown := r.events.filter (Log.Filter.choose o.verbose o.quiet c.logging).shows
    let (code, report) := Result.ending r.failed?
    ⟨code, [], shown, !shown.isEmpty && !o.noColor && !c.colorless, report, r.disk⟩

/-- Runs the program. -/
def run (w : Web) (c : Call) : Result :=
  match Options.ofArguments c.arguments with
  | .error .help => ⟨0, help, [], false, [], c.disk⟩
  | .error (.error e) => ⟨2, [], [], false, e.message, c.disk⟩
  | .ok o => perform w c o

end Program

end Command

end DocStub

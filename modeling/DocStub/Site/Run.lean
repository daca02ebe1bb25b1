/-
  Writing the stubs of all groups.

  The groups are worked on one after the other.  Each one is made into a single text and written once, so a
  group that fails leaves every other one as it is.
-/
import DocStub.Site.Group
import DocStub.Site.OutputDirectory
import DocStub.Site.Source

namespace DocStub

/-- What became of a group. -/
structure Outcome where
  name : Identifier
  functions : Nat
  failures : List Failure
  deriving DecidableEq, Repr

/-- The number of functions in all groups. -/
def Outcome.totalFunctions (os : List Outcome) : Nat := os.foldl (fun n o => n + o.functions) 0

/-- The state of a run: the disk, what became of the groups so far, and what was reported. -/
structure Run where
  disk : Disk
  outcomes : List Outcome
  events : List Log.Event
  deriving DecidableEq, Repr

namespace Run

/-! ## Reports -/

/-- The report on an entry that is about to be fetched. -/
def entryEvent (e : ClassEntry) : Log.Event :=
  ⟨.debug, .classes, e.name.text ++ ": '".toList ++ e.url ++ "' - ".toList ++ e.summary⟩

/-- The reports on what came of an entry. -/
def functionEvents (owner : Identifier) : Except Failure (List FunctionDoc) → List Log.Event
  | .ok fs => fs.map fun f =>
      ⟨.debug, .classes, owner.text ++ '.' :: f.name.text ++ ": ".toList ++ f.short⟩
  | .error failure =>
      [⟨.warn, .classes,
        "skipping functions of ".toList ++ owner.text ++ ": ".toList ++ failure.message⟩]

/-- All reports on the entries of a group. -/
def groupEvents (s : Source) (fetch : Text → Except Failure Text) (g : ClassGroup) : List Log.Event :=
  g.entries.flatMap fun e =>
    [entryEvent e, s.event e.url]
      ++ functionEvents g.header.name (GroupStub.functionsOf fetch g.header.name e)

/-! ## Groups -/

/-- Makes the stub of a group and writes it. -/
def add (w : Web) (s : Source) (o : OutputDirectory) (r : Run) (g : ClassGroup) : Run :=
  let name := g.header.name
  let fetch := s.fetch w r.disk
  let stub := GroupStub.ofGroup fetch g
  let events := r.events ++ groupEvents s fetch g
  match o.write r.disk name stub.text with
  | .ok disk =>
    { disk := disk
      outcomes := r.outcomes ++ [⟨name, stub.count, stub.failures⟩]
      events := events ++
        [⟨.info, .classes,
          "added ".toList ++ Text.ofNat stub.count ++ " functions to ".toList ++ o.pathOf name⟩] }
  | .error failure =>
    { disk := r.disk
      outcomes := r.outcomes ++ [⟨name, stub.count, stub.failures ++ [failure]⟩]
      events := events ++ [⟨.warn, .classes, failure.message⟩] }

/-- Makes and writes the stubs of all groups. -/
def ofGroups (w : Web) (s : Source) (o : OutputDirectory) (d : Disk) (groups : List ClassGroup) : Run :=
  groups.foldl (add w s o) ⟨d, [], []⟩

/-- Prepares the output directory, and makes and writes the stubs of the classes. -/
def ofClasses (w : Web) (s : Source) (output : Text) (d : Disk) (classes : List ClassEntry) :
    Disk × Except PrepareError Run :=
  match OutputDirectory.prepare d output with
  | (d', .error e) => (d', .error e)
  | (d', .ok o) =>
    let r := ofGroups w s o d' (ClassGroup.ofEntries classes)
    (r.disk, .ok r)

end Run

end DocStub

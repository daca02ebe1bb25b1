/-
  The program at a terminal.

  The part of the file system that a run may use is read into a `Disk`, the run is worked out on that, and
  the differences are carried over.  Nothing is decided here.
-/
import DocStub.Command.Program

namespace DocStub

namespace Terminal

open Command

/-- The name of a location in the file system. -/
def pathOf (p : Location) : String := String.ofList (Path.ofPieces true p.reverse)

/-- The directories that lead to a location, and the location. -/
def wayTo : Location → List (Location × Item)
  | [] => [([], .directory)]
  | name :: p => (name :: p, .directory) :: wayTo p

/-- The items below a location. -/
partial def itemsBelow (p : Location) : IO (List (Location × Item)) := do
  let directory ← IO.FS.realPath (pathOf p)
  let mut found := []
  for entry in ← directory.readDir do
    let q : Location := entry.fileName.toList :: p
    if ← entry.path.isDir then
      found := (q, .directory) :: (← itemsBelow q) ++ found
    else
      found := (q, .file (← IO.FS.readBinFile entry.path).toList) :: found
  return found

/-- The disk as it is seen from the working directory. -/
def readDisk : IO Disk := do
  let here := (Path.pieces (← IO.currentDir).toString.toList).reverse
  return ⟨here, (← itemsBelow here) ++ wayTo here⟩

/-- Makes the file system agree with the disk after a run. -/
def carryOver (before after : Disk) : IO Unit := do
  for (p, _) in before.items do
    if (after.find? p).isNone then IO.FS.removeFile (pathOf p)
  for (p, item) in after.items.reverse do
    if before.find? p ≠ some item then
      match item with
      | .directory => IO.FS.createDirAll (pathOf p)
      | .file content => IO.FS.writeBinFile (pathOf p) ⟨content.toArray⟩

/-- Everything on the standard input. -/
partial def readInput (input : IO.FS.Stream) (read : ByteArray) : IO ByteArray := do
  let more ← input.read 65536
  if more.isEmpty then return read else readInput input (read ++ more)

/-- There is no way to the web from here. -/
def noWeb : Web := fun _ => .error "no connection".toList

end Terminal

end DocStub

open DocStub DocStub.Terminal in
/-- Runs the program. -/
def main (args : List String) : IO UInt32 := do
  let arguments := args.map String.toList
  let input ←
    match Command.Options.ofArguments arguments with
    | .ok o =>
      if o.inputClass.isSome then readInput (← IO.getStdin) ByteArray.empty else pure ByteArray.empty
    | .error _ => pure ByteArray.empty
  let disk ← readDisk
  let r := Command.Program.run noWeb
    { arguments := arguments
      input := input.toList
      logging := (← IO.getEnv "RUST_LOG").map String.toList
      colorless := (← IO.getEnv "NO_COLOR").isSome
      disk := disk }
  carryOver disk r.disk
  for e in r.events do
    for l in e.lines do
      IO.eprintln (String.ofList (e.level.paint r.colored l))
  IO.print (String.ofList r.output)
  if !r.report.isEmpty then IO.eprintln (String.ofList r.report)
  return r.code.toUInt32

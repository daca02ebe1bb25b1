/-
  The directory that the stubs are written to.

  1. **Preparation** — `prepare` makes the directory and removes the stubs of an earlier run.  These are
     found by the pattern `*.lua` in the directory; the path of the directory is part of the pattern.
  2. **Writing** — each class has a file of its own, named after it.

  There are two ways in which the preparation can fail: the directory cannot be made, or its path makes a bad
  pattern.  A stub that cannot be removed would be a third one.  It does not occur on the ideal disk of
  `Disk.Basic`, where a file that was found can be removed, so there is no error for it.
-/
import DocStub.Disk.Search
import DocStub.Site.Failure

namespace DocStub

/-- Why an output directory could not be prepared. -/
inductive PrepareError where
  | notMade (path : Text) (error : FileError)
  | badPattern (pattern : Text) (error : PatternError)
  deriving DecidableEq, Repr

namespace PrepareError

/-- What failed. -/
def summary : PrepareError → Text
  | notMade path _ => "failed to create output directory: ".toList ++ path
  | badPattern pattern _ => "invalid glob pattern: ".toList ++ pattern

/-- Why it failed. -/
def cause : PrepareError → Text
  | notMade _ e => e.message.toList
  | badPattern _ e => e.message

end PrepareError

/-- A prepared directory. -/
structure OutputDirectory where
  path : Text
  deriving DecidableEq, Repr

namespace OutputDirectory

/-- How the name of a stub ends. -/
def ending : Text := ".lua".toList

/-- The pattern of all stubs in a directory. -/
def stubPattern (path : Text) : Text := Path.join path ('*' :: ending)

/-- Makes the directory, and removes the stubs of an earlier run from it. -/
def prepare (d : Disk) (path : Text) : Disk × Except PrepareError OutputDirectory :=
  match d.makeDirectories path with
  | (d', .error e) => (d', .error (.notMade path e))
  | (d', .ok ()) =>
    match Pattern.ofText (stubPattern path) with
    | .error e => (d', .error (.badPattern (stubPattern path) e))
    | .ok pattern => (d'.eraseAll (d'.filesMatching pattern), .ok ⟨path⟩)

/-- The path of the stub of a class. -/
def pathOf (o : OutputDirectory) (name : Identifier) : Text := Path.join o.path (name.text ++ ending)

/-- Writes the stub of a class. -/
def write (o : OutputDirectory) (d : Disk) (name : Identifier) (text : Text) : Except Failure Disk :=
  (d.write (o.pathOf name) (Text.encodeUtf8 text)).mapError (Failure.write (o.pathOf name))

end OutputDirectory

end DocStub

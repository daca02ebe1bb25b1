/-
  A disk: files and directories in one tree.

  1. **Locations** — a location is the list of names that lead to it from the root, the innermost name
     first, so that the parent of a location is its tail.  The disk is seen through `find?`, which tells
     what stands there; `find?_put` and `find?_erase` say what an operation does to it.
  2. **Walking** — a path is followed piece by piece (`step`, `walk`).  Every piece is looked up in a
     directory, and the first one that fails decides the error.
  3. **Reading, writing, making directories** — each operation first finds the location that it is about,
     or says why there is none; only then the disk changes, at that location alone.

  This is an ideal disk.  There are plain files and directories and nothing else: no links, so that two
  locations never share a file and `..` is always the parent, and no devices.  There are no permissions, no
  lack of space and no broken media: what stands at a location can be read, listed, replaced and removed, and
  the errors are those of `FileError`.  Every name is a text.  A file is replaced in one step, and nobody but
  the program works on the disk.
-/
import DocStub.Disk.Path

namespace DocStub

/-- The names that lead to a location, innermost first. -/
abbrev Location := List Text

/-- What stands at a location. -/
inductive Item where
  | file (content : List UInt8)
  | directory
  deriving DecidableEq, Repr

/-- The items of a disk, and the working directory. -/
structure Disk where
  here : Location
  items : List (Location × Item)
  deriving DecidableEq, Repr

namespace Disk

/-! ## What stands where -/

/-- What stands at a location. -/
def find? (d : Disk) (p : Location) : Option Item := d.items.lookup p

/-- The disk with an item put at a location, instead of what was there. -/
def put (d : Disk) (p : Location) (x : Item) : Disk :=
  { d with items := (p, x) :: d.items.filter (·.1 != p) }

/-- The disk without what was at a location. -/
def erase (d : Disk) (p : Location) : Disk := { d with items := d.items.filter (·.1 != p) }

/-- Is there a directory at the location? -/
def isDirectory (d : Disk) (p : Location) : Bool := d.find? p == some .directory

/-- Is there a file at the location? -/
def isFile (d : Disk) (p : Location) : Bool :=
  match d.find? p with
  | some (.file _) => true
  | _ => false

theorem isFile_iff {d : Disk} {p : Location} : d.isFile p = true ↔ ∃ content, d.find? p = some (.file content) := by
  rw [isFile]
  split
  · next content hfind => simp [hfind]
  · next hnot => simpa using fun content hfind => hnot content hfind

/-- Leaving out the entries of a location changes what is found at that location only. -/
theorem lookup_filter_ne (items : List (Location × Item)) (p q : Location) :
    (items.filter (·.1 != p)).lookup q = if q = p then none else items.lookup q := by
  induction items with
  | nil => simp
  | cons x xs ih =>
    obtain ⟨a, y⟩ := x
    by_cases hq : q = a
    · subst hq
      by_cases ha : q = p
      · subst ha
        rw [List.filter_cons_of_neg (by simp), ih]
        simp
      · simp [ha]
    · have hb : (q == a) = false := by simpa using hq
      by_cases ha : a = p
      · subst ha
        rw [List.filter_cons_of_neg (by simp), ih]
        simp [List.lookup_cons, hq, hb]
      · rw [List.filter_cons_of_pos (by simpa using ha)]
        simp only [List.lookup_cons, hb, ih]

/-- What was put is found where it was put, and every other location is as before. -/
theorem find?_put (d : Disk) (p q : Location) (x : Item) :
    (d.put p x).find? q = if q = p then some x else d.find? q := by
  by_cases h : q = p
  · simp [put, find?, h]
  · have hb : (q == p) = false := by simpa using h
    simp [put, find?, h, List.lookup_cons, lookup_filter_ne, hb]

/-- An erased location is free, and every other location is as before. -/
theorem find?_erase (d : Disk) (p q : Location) :
    (d.erase p).find? q = if q = p then none else d.find? q := by
  simp [erase, find?, lookup_filter_ne]

/-- A disk that holds nothing but the working directory and the directories above it. -/
def empty : Disk :=
  let here : Location := ["work".toList, "private".toList, "disk".toList]
  ⟨here, [(here, .directory), (here.tail, .directory), (here.tail.tail, .directory), ([], .directory)]⟩

/-! ## Walking -/

/-- Where one piece leads from a location. -/
def step (d : Disk) (p : Location) (piece : Text) : Except FileError Location :=
  if !d.isDirectory p then .error .notDirectory
  else if piece = Path.dot then .ok p
  else if piece = Path.dotDot then .ok p.tail
  else if Route.nameLimit < Text.byteLength piece then .error .nameTooLong
  else if (d.find? (piece :: p)).isNone then .error .notFound
  else .ok (piece :: p)

/-- Where a list of pieces leads from a location. -/
def walk (d : Disk) : Location → List Text → Except FileError Location
  | p, [] => .ok p
  | p, piece :: r =>
    match d.step p piece with
    | .ok q => d.walk q r
    | .error e => .error e

/-- Where a route begins. -/
def start (d : Disk) (r : Route) : Location := if r.rooted then [] else d.here

/-- The location of an existing item.  A slash at the end of a path asks for a directory. -/
def locate (d : Disk) (path : Text) : Except FileError Location := do
  let r ← Route.ofPath path
  d.walk (d.start r) (r.pieces ++ if r.slash then [Path.dot] else [])

/-- The directory in which the last piece of a route is looked up, and that piece. -/
def approach (d : Disk) (r : Route) : Except FileError (Location × Text) := do
  let p ← d.walk (d.start r) r.pieces.dropLast
  if d.isDirectory p then .ok (p, r.pieces.getLast?.getD Path.dot) else .error .notDirectory

/-- Is the piece no name, but a way to a directory that exists already? -/
def isDots (piece : Text) : Bool := piece == Path.dot || piece == Path.dotDot

/-! ## Reading and writing -/

/-- The bytes of a file. -/
def readBytes (d : Disk) (path : Text) : Except FileError (List UInt8) := do
  let p ← d.locate path
  match d.find? p with
  | some (.file content) => .ok content
  | some .directory => .error .isDirectory
  | none => .error .notFound

/-- The text of a file. -/
def readText (d : Disk) (path : Text) : Except FileError Text := do
  match Text.decodeUtf8? (← d.readBytes path) with
  | some text => .ok text
  | none => .error .notUtf8

/-- The location at which a file of this path would be written. -/
def fileTarget (d : Disk) (path : Text) : Except FileError Location := do
  let r ← Route.ofPath path
  let (p, name) ← d.approach r
  if r.slash || isDots name then .error .isDirectory
  else if Route.nameLimit < Text.byteLength name then .error .nameTooLong
  else if d.isDirectory (name :: p) then .error .isDirectory
  else .ok (name :: p)

/-- Writes a file, instead of the one that was there. -/
def write (d : Disk) (path : Text) (content : List UInt8) : Except FileError Disk := do
  return d.put (← d.fileTarget path) (.file content)

/-! ## Directories -/

/-- Does the path lead to a directory? -/
def leadsToDirectory (d : Disk) (path : Text) : Bool :=
  match d.locate path with
  | .ok p => d.isDirectory p
  | .error _ => false

/-- The location at which a new directory of this path would stand. -/
def directoryTarget (d : Disk) (path : Text) : Except FileError Location := do
  let r ← Route.ofPath path
  let (p, name) ← d.approach r
  if isDots name then .error .exists_
  else if Route.nameLimit < Text.byteLength name then .error .nameTooLong
  else if (d.find? (name :: p)).isSome then .error .exists_
  else .ok (name :: p)

/-- Makes one directory; it is no error if there is one already. -/
def makeDirectory (d : Disk) (path : Text) : Disk × Except FileError Unit :=
  match d.directoryTarget path with
  | .ok p => (d.put p .directory, .ok ())
  | .error e => (d, if d.leadsToDirectory path then .ok () else .error e)

/-- Makes the first directory of the list; if the way to it is missing, makes the others before it. -/
def makeChain (d : Disk) : List Text → Disk × Except FileError Unit
  | [] => (d, .ok ())
  | path :: ways =>
    match d.directoryTarget path with
    | .error .notFound =>
      match d.makeChain ways with
      | (d', .ok ()) => d'.makeDirectory path
      | failed => failed
    | _ => d.makeDirectory path

/-- Makes a directory and the missing ones on the way to it.  The empty path is the working directory. -/
def makeDirectories (d : Disk) (path : Text) : Disk × Except FileError Unit :=
  if path = [] then (d, .ok ()) else d.makeChain (Path.ancestors path)

/-! ## Listing -/

/-- The names that lead to `p` from the directory `base`, innermost first, if `p` is below it. -/
def namesBelow? (base p : Location) : Option (List Text) :=
  let n := p.length - base.length
  if 0 < n && p.drop n == base then some (p.take n) else none

/-- The name of `p` in the directory `base`, if it stands directly in it. -/
def nameIn? (base p : Location) : Option Text :=
  match p with
  | name :: q => if q = base then some name else none
  | [] => none

/-- The locations directly in a directory. -/
def children (d : Disk) (base : Location) : List Location :=
  (d.items.map (·.1)).filter fun p => (nameIn? base p).isSome

/-- The locations below a directory, at any depth. -/
def descendants (d : Disk) (base : Location) : List Location :=
  (d.items.map (·.1)).filter fun p => (namesBelow? base p).isSome

/-- The items below the working directory by their paths; the path of a directory ends in a slash. -/
def listing (d : Disk) : List (Text × Item) :=
  d.items.filterMap fun (p, x) =>
    (namesBelow? d.here p).map fun names =>
      (Path.ofPieces false names.reverse ++ (if x = .directory then ['/'] else []), x)

end Disk

end DocStub

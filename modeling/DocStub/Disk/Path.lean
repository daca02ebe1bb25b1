/-
  Paths.

  A path is a text.  Its pieces are what stands between the slashes, empty ones left out; a path that
  begins with a slash is rooted.

  1. **Joining** — `Path.join` takes a path from a directory; a rooted path replaces the directory.
  2. **Routes** — a `Route` is a path that the file system is ready to follow: not empty, without NUL, and
     not too long.
  3. **Ancestors** — the directories that lead to the end of a path, the nearest first.
-/
import DocStub.Disk.FileError
import DocStub.Text.Bytes
import DocStub.Text.Split

namespace DocStub

namespace Path

/-- Is the path independent of the working directory? -/
def isRooted (p : Text) : Bool := p.head? == some '/'

/-- Does the path end in a slash? -/
def endsInSlash (p : Text) : Bool := p.getLast? == some '/'

/-- The pieces of a path. -/
def pieces (p : Text) : List Text := (Text.splitAt '/' p).filter (· != [])

/-- The path `p` as seen from the directory `base`. -/
def join (base p : Text) : Text :=
  if isRooted p || base == [] then p
  else if endsInSlash base then base ++ p
  else base ++ '/' :: p

/-- The piece that stays where it is. -/
def dot : Text := ['.']

/-- The piece that leads to the parent. -/
def dotDot : Text := ['.', '.']

/-- The path through the given pieces. -/
def ofPieces (rooted : Bool) (ps : List Text) : Text :=
  (if rooted then ['/'] else []) ++ Text.joinWith ['/'] ps

/-! ## Ancestors -/

/-- The paths to a list of pieces, innermost first, and to every shorter one. -/
def chain (rooted : Bool) : List Text → List Text
  | [] => if rooted then [['/']] else []
  | n :: r => ofPieces rooted (n :: r).reverse :: chain rooted r

/-- A path, its parent, the parent of that, and so on up to the root or the working directory.  Pieces
that stay where they are do not count. -/
def ancestors (p : Text) : List Text :=
  p :: chain (isRooted p) ((pieces p).filter (· != dot)).reverse.tail

end Path

/-! ## Routes -/

/-- A path cut up: where it begins, its pieces, and whether it ends in a slash. -/
structure Route where
  rooted : Bool
  pieces : List Text
  slash : Bool
  deriving DecidableEq, Repr

namespace Route

/-- The number of bytes at which a path is too long. -/
def lengthLimit : Nat := 4096

/-- The number of bytes that a single name may have. -/
def nameLimit : Nat := 255

/-- The route of a path, unless the file system refuses it at once. -/
def ofPath (p : Text) : Except FileError Route :=
  if p.contains '\x00' then .error .nulInName
  else if p = [] then .error .notFound
  else if lengthLimit ≤ Text.byteLength p then .error .nameTooLong
  else .ok ⟨Path.isRooted p, Path.pieces p, Path.endsInSlash p⟩

end Route

end DocStub

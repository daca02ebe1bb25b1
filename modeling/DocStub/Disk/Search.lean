/-
  Finding the locations that a pattern means.

  1. **Plain pieces** — are followed like the pieces of a path.
  2. **Wild pieces** — are compared with every name in the directory.  A wild piece that begins with a dot
     may also mean the directory itself or its parent.
  3. **Any depth** — every item below the directory, at any depth, is tried with the next piece.

  `filesMatching` keeps the regular files among the locations found.

  A piece that leads nowhere is passed over and is no error.  On the ideal disk that is the only way in which a
  search can miss something: every directory can be listed, and every name in it is a text.
-/
import DocStub.Disk.Basic
import DocStub.Disk.Pattern

namespace DocStub

namespace Disk

open Pattern (Piece Token)

/-- Where a plain piece leads.  An empty piece asks for a directory and stays there. -/
def follow (d : Disk) (p : Location) (name : Text) : List Location :=
  match d.step p (if name = [] then Path.dot else name) with
  | .ok q => [q]
  | .error _ => []

/-- The directory itself and its parent, as far as a wild piece that begins with a dot means them. -/
def dotLocations (d : Disk) (p : Location) (ts : List Token) : List Location :=
  if d.isDirectory p && ts.head? == some (.char '.') then
    (if Token.fits ts Path.dot then [p] else []) ++ (if Token.fits ts Path.dotDot then [p.tail] else [])
  else []

/-- Is the piece allowed to mean the location, by its last name? -/
def named (piece : Piece) (p : Location) : Bool := (p.head?.map piece.allows).getD false

/-- The locations that the pieces mean, seen from a location. -/
def search (d : Disk) : List Piece → Location → List Location
  | [], p => [p]
  | .plain name :: r, p => (d.follow p name).flatMap (d.search r)
  | .wild ts :: r, p =>
    ((d.children p).filter (named (.wild ts)) ++ d.dotLocations p ts).flatMap (d.search r)
  | [.anyDepth], p => (d.descendants p).filter d.isDirectory
  | .anyDepth :: .anyDepth :: r, p => d.search (.anyDepth :: r) p
  | .anyDepth :: piece :: r, p => ((d.descendants p).filter (named piece)).flatMap (d.search r)

/-- The regular files that a pattern means. -/
def filesMatching (d : Disk) (pattern : Pattern) : List Location :=
  (d.search pattern.pieces (if pattern.rooted then [] else d.here)).filter d.isFile

/-- Removes the files at the given locations. -/
def eraseAll (d : Disk) (ps : List Location) : Disk := ps.foldl erase d

end Disk

end DocStub

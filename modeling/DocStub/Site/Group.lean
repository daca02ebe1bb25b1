/-
  Classes that share a stub.

  Several entries of an index may have one identifier; they form one group.  Groups come in the order of
  their first entries, and the first entry gives the header of the stub.
-/
import DocStub.Page.ClassPage
import DocStub.Stub

namespace DocStub

/-- The entries of one identifier. -/
structure ClassGroup where
  header : ClassHeader
  entries : List ClassEntry
  deriving DecidableEq, Repr

namespace ClassGroup

/-- A group of one entry. -/
def single (e : ClassEntry) : ClassGroup := ⟨⟨e.name, e.summary⟩, [e]⟩

/-- Adds an entry at the end of the group of its identifier. -/
def add (e : ClassEntry) : List ClassGroup → List ClassGroup
  | [] => [single e]
  | g :: gs =>
    if g.header.name = e.name then { g with entries := g.entries ++ [e] } :: gs else g :: add e gs

/-- Groups the entries of an index. -/
def ofEntries (entries : List ClassEntry) : List ClassGroup :=
  entries.foldl (fun groups e => add e groups) []

end ClassGroup

/-- What was made of a group: the text of its stub, the number of functions in it, and what failed. -/
structure GroupStub where
  text : Text
  count : Nat
  failures : List Failure
  deriving DecidableEq, Repr

namespace GroupStub

/-- The functions of one entry of a group. -/
def functionsOf (fetch : Text → Except Failure Text) (owner : Identifier) (e : ClassEntry) :
    Except Failure (List FunctionDoc) :=
  match fetch e.url with
  | .ok page => (ClassPage.ofText page).functions owner
  | .error failure => .error failure

/-- Adds the functions of one entry, or its failure. -/
def add (owner : Identifier) (s : GroupStub) : Except Failure (List FunctionDoc) → GroupStub
  | .ok fs => { s with text := s.text ++ Stub.functions owner fs, count := s.count + fs.length }
  | .error failure => { s with failures := s.failures ++ [failure] }

/-- The stub of a group.  An entry that fails costs its own functions only. -/
def ofGroup (fetch : Text → Except Failure Text) (g : ClassGroup) : GroupStub :=
  (g.entries.map (functionsOf fetch g.header.name)).foldl (add g.header.name)
    ⟨Stub.header g.header, 0, []⟩

end GroupStub

end DocStub

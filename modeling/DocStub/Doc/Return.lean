/-
  The return values of a function.

  1. **Layout** — a return value takes two lines: type and description.  Blank lines are skipped.
  2. **Prose** — a line of several words where a type is expected is a description by itself.  If it
     speaks of an iterator, the rest of the line four bytes behind that word is the type (`iteratorType`);
     those four bytes are usually ` of `.
  3. **Breaking off** — a type without a description is kept.
-/
import DocStub.Doc.TypeTag
import DocStub.Text.Bytes
import DocStub.Text.Lines

namespace DocStub

/-- A documented return value. -/
structure Return where
  type : TypeTag
  description : Text
  deriving DecidableEq, Repr

namespace Return

/-- The type that a single word names; three types have a short form. -/
def typeOf (token : Text) : TypeTag :=
  if token = "the".toList then .string
  else if token = "bool".toList then .boolean
  else if token = "int".toList then .integer
  else .ofText token

/-- The type that a line of prose gives: what stands four bytes behind the word `iterator`. -/
def iteratorType (line : Text) : Text :=
  match Text.cutAt? "iterator".toList line with
  | none => []
  | some (_, behind) => (Text.dropBytes? 4 behind).getD []

/-- Reads return values from lines; `type` is the type of the one whose description comes next. -/
def ofLines : Option TypeTag → List Text → List Return
  | none, [] => []
  | some type, [] => [⟨type, []⟩]
  | none, line :: ls =>
    if Text.isSeveralWords line then ⟨.ofText (iteratorType line), line⟩ :: ofLines none ls
    else ofLines (some (typeOf line)) ls
  | some type, line :: ls => ⟨type, line⟩ :: ofLines none ls

/-- The return values that a section documents. -/
def ofSection (text : Text) : List Return := ofLines none (Text.contentLines text)

end Return

end DocStub

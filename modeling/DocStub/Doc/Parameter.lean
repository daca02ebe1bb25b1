/-
  The parameters of a function.

  1. **Layout** — a parameter takes up to three lines: name, type, description.  Blank lines are skipped.
  2. **Untyped parameters** — a second line of several words is the description of a parameter of any
     type.
  3. **Callbacks** — a function parameter is the last one: all lines that follow, blank or not, are its
     description, each with a space in front.
  4. **Breaking off** — what was read of a parameter when the lines end is kept.
-/
import DocStub.Doc.TypeTag
import DocStub.Text.Lines

namespace DocStub

/-- A documented parameter. -/
structure Parameter where
  name : Text
  type : TypeTag
  description : Text
  deriving DecidableEq, Repr

namespace Parameter

/-- The type that a single word names; three types have a short form. -/
def typeOf (token : Text) : TypeTag :=
  if token = "func".toList then .function
  else if token = "int".toList then .integer
  else if token = "bool".toList then .boolean
  else .ofText token

/-- What the next line of a parameter is. -/
inductive Expecting where
  | name
  | type (name : Text)
  | description (name : Text) (type : TypeTag)

/-- The description of a callback: all lines, trimmed, each with a space in front. -/
def absorb (lines : List Text) : Text := lines.flatMap fun l => ' ' :: Text.trim l

/-- The parameter that was begun when the lines end. -/
def ofUnfinished : Expecting → List Parameter
  | .name => []
  | .type name => [⟨name, .any, []⟩]
  | .description name type => [⟨name, type, []⟩]

/-- Reads parameters from lines. -/
def ofLines : Expecting → List Text → List Parameter
  | expecting, [] => ofUnfinished expecting
  | expecting, l :: ls =>
    let line := Text.trim l
    if line.isEmpty then ofLines expecting ls
    else
      match expecting with
      | .name => ofLines (.type line) ls
      | .type name =>
        if Text.isSeveralWords line then ⟨name, .any, line⟩ :: ofLines .name ls
        else
          match typeOf line with
          | .function => [⟨name, .function, absorb ls⟩]
          | type => ofLines (.description name type) ls
      | .description name type => ⟨name, type, line⟩ :: ofLines .name ls

/-- The parameters that a section documents. -/
def ofSection (text : Text) : List Parameter := ofLines .name (Text.lines text)

end Parameter

end DocStub

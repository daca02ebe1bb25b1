/-
  The documentation of one function.

  A function is listed with a short description, and has a documentation text.  `FunctionDoc.ofBlob` reads
  the text: its sections become parameters, return values and lines of usage, and the text in front of
  them the description.  If that says nothing, the short description stands in for it.
-/
import DocStub.Doc.Parameter
import DocStub.Doc.Return
import DocStub.Doc.Section
import DocStub.Identifier

namespace DocStub

/-- What is known of a function. -/
structure FunctionDoc where
  name : Identifier
  short : Text
  long : List Text
  usage : List Text
  parameters : List Parameter
  returns : List Return
  deriving DecidableEq, Repr

namespace FunctionDoc

/-- Puts the parts together. -/
def assemble (name : Identifier) (short : Text) (sections : Sections)
    (parameters : List Parameter) (returns : List Return) : FunctionDoc :=
  let long := Text.contentLines sections.description
  { name, short, parameters, returns
    long := if long.isEmpty then [short] else long
    usage := (sections.usage.map Text.contentLines).getD [] }

/-- Reads the documentation text of a function. -/
def ofBlob (name : Identifier) (short blob : Text) : FunctionDoc :=
  let sections := Sections.split blob
  assemble name short sections ((sections.parameters.map Parameter.ofSection).getD [])
    ((sections.returns.map Return.ofSection).getD [])

end FunctionDoc

end DocStub

/-
  The text of a stub.

  1. **Header** — names the class in an annotation, and declares it as an empty table.
  2. **Functions** — the documentation of a function is a block of comment lines in front of its
     declaration: description, usage, parameters and return values, in this order.
  3. **Partial records** — a parameter or return value without a description leaves no blank at the end
     of its line.
-/
import DocStub.Doc.Function

namespace DocStub

/-- What the head of a stub says of the class. -/
structure ClassHeader where
  name : Identifier
  summary : Text
  deriving DecidableEq, Repr

namespace Stub

/-- Every line of documentation is a comment of the stub's language. -/
def comment : Text := "---".toList

/-- A line with its end. -/
def line (s : Text) : Text := s ++ ['\n']

/-! ## The header -/

/-- The head of the stub of a class. -/
def header (h : ClassHeader) : Text :=
  line (comment ++ "@meta ".toList ++ h.name.text) ++ line comment ++ line (comment ++ h.summary)
    ++ line (comment ++ "@class ".toList ++ h.name.text)
    ++ line (h.name.text ++ " = \x7b\x7d".toList) ++ line []

/-! ## Functions -/

/-- The usage block: a fenced example, if there is one. -/
def usageLines (usage : List Text) : List Text :=
  if usage.isEmpty then []
  else
    [comment, comment ++ "Usage:".toList, comment ++ "```".toList]
      ++ usage.map (fun u => comment ++ "    ".toList ++ u) ++ [comment ++ "```".toList]

/-- A line that would end in blanks for want of a description ends before them. -/
def withoutDanglingBlank (line description : Text) : Text :=
  if description.isEmpty then Text.trimEnd line else line

/-- The line of a parameter. -/
def parameterLine (p : Parameter) : Text :=
  let type := if p.type.isEmpty then [] else p.type.text ++ [' ']
  withoutDanglingBlank
    (comment ++ "@param ".toList ++ p.name ++ [' '] ++ type ++ p.description) p.description

/-- The line of a return value. -/
def returnLine (r : Return) : Text :=
  let type := if r.type.isEmpty then [] else r.type.text ++ [' ']
  withoutDanglingBlank
    (comment ++ "@return ".toList ++ type ++ "# ".toList ++ r.description) r.description

/-- The line that declares a function of a class. -/
def declarationLine (owner name : Identifier) : Text :=
  "function ".toList ++ owner.text ++ ['.'] ++ name.text ++ " end".toList

/-- The lines of a function. -/
def functionLines (owner : Identifier) (f : FunctionDoc) : List Text :=
  f.long.map (comment ++ ·) ++ usageLines f.usage ++ f.parameters.map parameterLine
    ++ f.returns.map returnLine ++ [declarationLine owner f.name]

/-- The text of a function, with an empty line behind it. -/
def function (owner : Identifier) (f : FunctionDoc) : Text :=
  Text.joinWith ['\n'] (functionLines owner f) ++ "\n\n".toList

/-! ## Classes -/

/-- The functions of a class, one after the other. -/
def functions (owner : Identifier) (fs : List FunctionDoc) : Text := fs.flatMap (function owner)

/-- The stub of a class. -/
def ofClass (h : ClassHeader) (fs : List FunctionDoc) : Text := header h ++ functions h.name fs

end Stub

end DocStub

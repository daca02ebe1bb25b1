/-
  Types of parameters and return values.

  Five type names are known to every reader of a stub; all others are kept as they are written.  Nothing
  is lost when a text is read as a tag (`text_ofText`).
-/
import DocStub.Text.Basic

namespace DocStub

/-- The type of a value, as a stub names it. -/
inductive TypeTag where
  | integer | boolean | string | function | any
  | raw (token : Text)
  deriving DecidableEq, Repr

namespace TypeTag

/-- The tag that a token names. -/
def ofText (token : Text) : TypeTag :=
  if token = "integer".toList then integer
  else if token = "boolean".toList then boolean
  else if token = "string".toList then string
  else if token = "function".toList then function
  else if token = "any".toList then any
  else raw token

/-- The written form. -/
def text : TypeTag → Text
  | integer => "integer".toList
  | boolean => "boolean".toList
  | string => "string".toList
  | function => "function".toList
  | any => "any".toList
  | raw token => token

/-- Is nothing written for the type? -/
def isEmpty (t : TypeTag) : Bool := t.text.isEmpty

/-- Every token is the text of its own type: the known ones are spelled as they are read. -/
theorem text_ofText (token : Text) : (ofText token).text = token := by
  unfold ofText
  split
  · next h => exact h.symm
  · split
    · next h => exact h.symm
    · split
      · next h => exact h.symm
      · split
        · next h => exact h.symm
        · split
          · next h => exact h.symm
          · rfl

end TypeTag

end DocStub

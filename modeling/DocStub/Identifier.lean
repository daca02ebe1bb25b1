/-
  Names of classes and functions.

  1. **Words** — the separator `_` never survives: `word` removes it.
  2. **The reserved name space** — a word that begins with `lotj` in any case, and the word `core` in any
     case, belong to the reserved name space: their first four characters are written `LOTJ`.
  3. **Other words** — begin with the capital form of their first character, and keep the rest.

  `normalize` is the only way a raw name becomes an `Identifier`.
-/
import DocStub.Text.Capital

namespace DocStub

/-- A normalized name. -/
structure Identifier where
  text : Text
  deriving DecidableEq, Repr, Inhabited

namespace Identifier

/-- The raw name without separators. -/
def word (raw : Text) : Text := raw.filter (· != '_')

/-- The first characters of every name in the reserved name space. -/
def reserved : Text := "LOTJ".toList

/-- Does the word belong to the reserved name space? -/
def isReserved (w : Text) : Bool :=
  Text.sameIgnoringCase (w.take 4) reserved || Text.sameIgnoringCase w "core".toList

/-- The word with its first character in capital form. -/
def capitalize : Text → Text
  | [] => []
  | c :: r => Text.capitals c ++ r

/-- The identifier of a raw name. -/
def normalize (raw : Text) : Identifier :=
  let w := word raw
  ⟨if isReserved w then reserved ++ w.drop 4 else capitalize w⟩

end Identifier

end DocStub

/-
  Lines.

  1. **Cutting** — `lines` cuts at newlines; a carriage return before a newline belongs to the line end,
     and a text that ends in a newline has no empty last line.
  2. **Content** — `contentLines` are the lines trimmed, without those that are blank.
  3. **Joining** — `joinWith` puts a separator between texts.
-/
import DocStub.Text.Blank

namespace DocStub.Text

/-- The lines of a text, without their ends. -/
def lines : Text → List Text
  | [] => []
  | '\n' :: r => [] :: lines r
  | '\r' :: '\n' :: r => [] :: lines r
  | c :: r =>
    match lines r with
    | [] => [[c]]
    | l :: ls => (c :: l) :: ls

/-- The lines that say something, trimmed. -/
def contentLines (s : Text) : List Text := ((lines s).map trim).filter (· != [])

/-- The texts one after the other, with `separator` in between. -/
def joinWith (separator : Text) : List Text → Text
  | [] => []
  | [t] => t
  | t :: ts => t ++ separator ++ joinWith separator ts

end DocStub.Text

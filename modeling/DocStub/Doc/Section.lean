/-
  The sections of a documentation text.

  1. **Keywords** — three words open a section wherever they stand.  Only the first occurrence of each
     counts; a later one is ordinary text.
  2. **Scanning** — `scan` goes through the text once.  It answers the text in front of the first section,
     and the sections in the order in which they stand.
  3. **Sections** — `Sections.split` names the parts.
-/
import DocStub.Text.Basic

namespace DocStub

/-- What opens a section. -/
inductive Keyword where
  | usage | returns | parameters
  deriving DecidableEq, Repr

namespace Keyword

/-- The written form. -/
def text : Keyword → Text
  | usage => "Usage:".toList
  | returns => "Returns:".toList
  | parameters => "Parameters:".toList

def all : List Keyword := [usage, returns, parameters]

/-- The keyword at the front of a text, and the text after it. -/
def cut? (s : Text) : Option (Keyword × Text) :=
  all.findSome? fun k => (Text.dropPrefix? k.text s).map fun r => (k, r)

/-- A keyword is not empty, so a cut leaves less to scan. -/
theorem length_lt_of_cut? {s r : Text} {k : Keyword} (h : cut? s = some (k, r)) :
    r.length < s.length := by
  simp only [cut?, List.findSome?_eq_some_iff, Option.map_eq_some_iff] at h
  obtain ⟨_, k', _, _, ⟨r', hr, he⟩, _⟩ := h
  obtain ⟨rfl, rfl⟩ := Prod.mk.inj he
  rw [Text.dropPrefix?_eq_some_iff] at hr
  have hpos : 0 < k'.text.length := by cases k' <;> decide
  rw [hr, List.length_append]; omega

end Keyword

/-- A documentation text in its parts. -/
structure Sections where
  description : Text
  usage : Option Text
  returns : Option Text
  parameters : Option Text
  deriving DecidableEq, Repr

namespace Sections

/-- The text up to the first section whose keyword is not among `seen`, and the sections from there on. -/
def scan (seen : List Keyword) : Text → Text × List (Keyword × Text)
  | [] => ([], [])
  | c :: r =>
    match _h : Keyword.cut? (c :: r) with
    | some (k, body) =>
      if k ∈ seen then (c :: (scan seen r).1, (scan seen r).2)
      else ([], (k, (scan (k :: seen) body).1) :: (scan (k :: seen) body).2)
    | none => (c :: (scan seen r).1, (scan seen r).2)
  termination_by s => s.length
  decreasing_by
  · simp
  · exact Keyword.length_lt_of_cut? _h
  · simp

/-- The sections found by a scan. -/
def ofFound (found : Text × List (Keyword × Text)) : Sections :=
  ⟨found.1, found.2.lookup .usage, found.2.lookup .returns, found.2.lookup .parameters⟩

/-- Cuts a documentation text into its parts. -/
def split (blob : Text) : Sections := ofFound (scan [] blob)

end Sections

end DocStub

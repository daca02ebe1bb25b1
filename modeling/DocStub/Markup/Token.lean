/-
  The tokens of a page, and document types.

  1. **Tokens** — what the reader of characters hands to the builder of the document.  Comments carry no
     text, because nothing in a page's text comes from them; they only take a place in the document.  A
     `fault` is ill-formed input that stands for nothing, but still separates a start tag from the newline
     behind it.
  2. **Document types** — a page without a modern document type is laid out in the old way; here that
     only decides whether a table ends an open paragraph (`Doctype.isOld`).
-/
import DocStub.Markup.Tag

namespace DocStub.Markup

/-- An attribute as written in a start tag, its name in small letters. -/
structure Attr where
  name : Text
  value : Text
  deriving DecidableEq, Repr

/-- A document type. -/
structure Doctype where
  name : Text
  publicId : Option Text
  systemId : Option Text
  /-- Ill-formed document types count as old whatever they name. -/
  isBroken : Bool
  deriving DecidableEq, Repr

/-- One token of a page. -/
inductive Token where
  | text (cs : Text)
  | null
  | startTag (tag : Tag) (attrs : List Attr) (selfClosing : Bool)
  | endTag (tag : Tag)
  | comment
  | doctype (d : Doctype)
  | fault
  deriving DecidableEq, Repr

namespace Doctype

/-! ## Old document types

  Public identifiers are compared in small letters.  Those listed here all begin with a dash and two
  slashes, which the lists leave out. -/

/-- Beginnings of public identifiers that are old with any system identifier. -/
def oldPublic : List String :=
  ["as//dtd html 3.0 aswedit + extensions//", "advasoft ltd//dtd html 3.0 aswedit + extensions//",
   "ietf//dtd html 2.0 level 1//", "ietf//dtd html 2.0 level 2//",
   "ietf//dtd html 2.0 strict level 1//", "ietf//dtd html 2.0 strict level 2//",
   "ietf//dtd html 2.0 strict//", "ietf//dtd html 2.0//", "ietf//dtd html 2.1e//",
   "ietf//dtd html 3.0//", "ietf//dtd html 3.2 final//", "ietf//dtd html 3.2//",
   "ietf//dtd html 3//", "ietf//dtd html level 0//", "ietf//dtd html level 1//",
   "ietf//dtd html level 2//", "ietf//dtd html level 3//", "ietf//dtd html strict level 0//",
   "ietf//dtd html strict level 1//", "ietf//dtd html strict level 2//",
   "ietf//dtd html strict level 3//", "ietf//dtd html strict//", "ietf//dtd html//",
   "metrius//dtd metrius presentational//",
   "microsoft//dtd internet explorer 2.0 html strict//",
   "microsoft//dtd internet explorer 2.0 html//",
   "microsoft//dtd internet explorer 2.0 tables//",
   "microsoft//dtd internet explorer 3.0 html strict//",
   "microsoft//dtd internet explorer 3.0 html//",
   "microsoft//dtd internet explorer 3.0 tables//",
   "netscape comm. corp.//dtd html//", "netscape comm. corp.//dtd strict html//",
   "o\x27reilly and associates//dtd html 2.0//",
   "o\x27reilly and associates//dtd html extended 1.0//",
   "o\x27reilly and associates//dtd html extended relaxed 1.0//",
   "softquad software//dtd hotmetal pro 6.0::19990601::extensions to html 4.0//",
   "softquad//dtd hotmetal pro 4.0::19971010::extensions to html 4.0//",
   "spyglass//dtd html 2.0 extended//", "sq//dtd html 2.0 hotmetal + extensions//",
   "sun microsystems corp.//dtd hotjava html//",
   "sun microsystems corp.//dtd hotjava strict html//", "w3c//dtd html 3 1995-03-24//",
   "w3c//dtd html 3.2 draft//", "w3c//dtd html 3.2 final//", "w3c//dtd html 3.2//",
   "w3c//dtd html 3.2s draft//", "w3c//dtd html 4.0 frameset//",
   "w3c//dtd html 4.0 transitional//", "w3c//dtd html experimental 19960712//",
   "w3c//dtd html experimental 970421//", "w3c//dtd w3 html//", "w3o//dtd w3 html 3.0//",
   "webtechs//dtd mozilla html 2.0//", "webtechs//dtd mozilla html//"]

/-- Beginnings of public identifiers that are old when no system identifier follows. -/
def oldPublicAlone : List String :=
  ["w3c//dtd html 4.01 frameset//", "w3c//dtd html 4.01 transitional//"]

/-- Whole public identifiers that are old. -/
def oldPublicWhole : List String :=
  ["-//w3o//dtd w3 html strict 3.0//en//", "-/w3c/dtd html 4.0 transitional/en", "html"]

/-- Whole system identifiers that are old. -/
def oldSystemWhole : List String :=
  ["http://www.ibm.com/data/dtd/v11/ibmxhtml1-transitional.dtd"]

/-- Does `id` begin with a dash, two slashes and one of `words`? -/
def beginsWithOneOf (words : List String) (id : Text) : Bool :=
  words.any fun w => ('-' :: '/' :: '/' :: w.toList).isPrefixOf id

/-- Is this the document type of an old page? -/
def isOld (d : Doctype) : Bool :=
  let publicId := d.publicId.map Text.asciiLower
  let systemId := d.systemId.map Text.asciiLower
  d.isBroken || d.name != "html".toList
    || publicId.any (fun id => oldPublicWhole.any fun w => w.toList == id)
    || systemId.any (fun id => oldSystemWhole.any fun w => w.toList == id)
    || publicId.any (beginsWithOneOf oldPublic)
    || (publicId.any (beginsWithOneOf oldPublicAlone) && systemId.isNone)

end Doctype

end DocStub.Markup

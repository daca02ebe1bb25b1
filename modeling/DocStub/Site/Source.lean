/-
  Where the pages of a site come from.

  A source is an address of the web, or a directory of saved pages that is laid out like the site.  Pages
  are named relative to the source, and the empty name is the index.
-/
import DocStub.Disk.Basic
import DocStub.Log.Event
import DocStub.Site.Failure

namespace DocStub

/-- Asks the web for the page at an address; gives its text, or the reason why there is none. -/
abbrev Web := Text → Except Text Text

/-- The origin of the pages. -/
inductive Source where
  /-- An address, which ends in a slash. -/
  | web (base : Text)
  /-- A directory. -/
  | saved (root : Text)
  deriving DecidableEq, Repr

namespace Source

/-- The beginnings of a web address. -/
def schemes : List Text := ["http://".toList, "https://".toList]

/-- The source that a text names. -/
def ofText (s : Text) : Source :=
  if schemes.any (·.isPrefixOf s) then .web (if Path.endsInSlash s then s else s ++ ['/'])
  else .saved s

/-- The file of the index in a directory of saved pages. -/
def indexFile : Text := "index.html".toList

/-- The address or the path of a page. -/
def address : Source → Text → Text
  | web base, page => base ++ page
  | saved root, page => Path.join root (if page = [] then indexFile else page)

/-- What is reported when a page is asked for. -/
def event (s : Source) (page : Text) : Log.Event :=
  let verb := match s with
    | web _ => "GET "
    | saved _ => "reading "
  ⟨.debug, .pages, verb.toList ++ s.address page⟩

/-- The text of a page. -/
def fetch (w : Web) (s : Source) (d : Disk) (page : Text) : Except Failure Text :=
  let place := s.address page
  match s with
  | web _ => (w place).mapError (Failure.fetch place)
  | saved _ => (d.readText place).mapError fun e => .fetch place e.message.toList

end Source

end DocStub

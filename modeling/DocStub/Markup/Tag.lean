/-
  Names of page elements.

  1. **Tags** — the element names that tree building treats in a way of their own are constructors of
     `Tag`; every other name is `other`.  `Tag.ofName` is the only way a written name becomes a tag.
  2. **Name spaces** — an element belongs to the page language or to one of the two embedded drawing
     and formula languages; `Name` joins name space and tag.
  3. **Families** — the sets of names that the tree-building rules speak of (what stops a search of the
     open elements, what an end tag may close silently, …), each as a Boolean test.
-/
import DocStub.Text.Basic

namespace DocStub.Markup

/-! ## Tags -/

/-- An element name.  Names without a rule of their own are kept as text. -/
inductive Tag where
  | a | address | annotationXml | applet | area | article | aside | b | base | basefont | bgsound
  | big | blockquote | body | br | button | caption | center | code | col | colgroup | dd | desc
  | details | dialog | dir | div | dl | dt | em | embed | fieldset | figcaption | figure | font
  | footer | foreignObject | form | frame | frameset | h1 | h2 | h3 | h4 | h5 | h6 | head
  | header | hgroup | hr | html | i | iframe | image | img | input | isindex | keygen | li | link
  | listing | mainPart | malignmark | marquee | math | menu | metaInfo | mglyph | mi | mn | mo
  | ms | mtext | nav | nobr | noembed | noframes | noscript | object | ol | optgroup | option | p
  | param | plaintext | pre | rb | rp | rt | rtc | ruby | s | script | search | sectionPart | select
  | small | source | span | strike | strong | style | sub | summary | sup | svg | table | tbody
  | td | template | textarea | tfoot | th | thead | title | tr | track | tt | u | ul | var | wbr
  | xmp
  | other (name : Text)
  deriving DecidableEq, Repr

namespace Tag

/-- The written form of every tag that has a constructor. -/
def named : List (String × Tag) :=
  [("a", .a), ("address", .address), ("annotation-xml", .annotationXml), ("applet", .applet),
   ("area", .area), ("article", .article), ("aside", .aside), ("b", .b), ("base", .base),
   ("basefont", .basefont), ("bgsound", .bgsound), ("big", .big), ("blockquote", .blockquote),
   ("body", .body), ("br", .br), ("button", .button), ("caption", .caption), ("center", .center),
   ("code", .code), ("col", .col), ("colgroup", .colgroup), ("dd", .dd), ("desc", .desc),
   ("details", .details), ("dialog", .dialog), ("dir", .dir), ("div", .div), ("dl", .dl),
   ("dt", .dt), ("em", .em), ("embed", .embed), ("fieldset", .fieldset),
   ("figcaption", .figcaption), ("figure", .figure), ("font", .font), ("footer", .footer),
   ("foreignobject", .foreignObject), ("form", .form), ("frame", .frame), ("frameset", .frameset),
   ("h1", .h1), ("h2", .h2), ("h3", .h3), ("h4", .h4), ("h5", .h5), ("h6", .h6), ("head", .head),
   ("header", .header), ("hgroup", .hgroup), ("hr", .hr), ("html", .html), ("i", .i),
   ("iframe", .iframe), ("image", .image), ("img", .img), ("input", .input), ("isindex", .isindex),
   ("keygen", .keygen), ("li", .li), ("link", .link), ("listing", .listing), ("main", .mainPart),
   ("malignmark", .malignmark), ("marquee", .marquee), ("math", .math), ("menu", .menu),
   ("meta", .metaInfo), ("mglyph", .mglyph), ("mi", .mi), ("mn", .mn), ("mo", .mo), ("ms", .ms),
   ("mtext", .mtext), ("nav", .nav), ("nobr", .nobr), ("noembed", .noembed),
   ("noframes", .noframes), ("noscript", .noscript), ("object", .object), ("ol", .ol),
   ("optgroup", .optgroup), ("option", .option), ("p", .p), ("param", .param),
   ("plaintext", .plaintext), ("pre", .pre), ("rb", .rb), ("rp", .rp), ("rt", .rt), ("rtc", .rtc),
   ("ruby", .ruby), ("s", .s), ("script", .script), ("search", .search),
   ("section", .sectionPart), ("select", .select),
   ("small", .small), ("source", .source), ("span", .span), ("strike", .strike),
   ("strong", .strong), ("style", .style), ("sub", .sub), ("summary", .summary), ("sup", .sup),
   ("svg", .svg), ("table", .table), ("tbody", .tbody), ("td", .td), ("template", .template),
   ("textarea", .textarea), ("tfoot", .tfoot), ("th", .th), ("thead", .thead), ("title", .title),
   ("tr", .tr), ("track", .track), ("tt", .tt), ("u", .u), ("ul", .ul), ("var", .var),
   ("wbr", .wbr), ("xmp", .xmp)]

/-- The tag written `name`, in small letters. -/
def ofName (name : Text) : Tag :=
  match named.find? fun entry => entry.1.toList == name with
  | some entry => entry.2
  | none => .other name

/-- One of the six heading tags. -/
def isHeading : Tag → Bool
  | .h1 | .h2 | .h3 | .h4 | .h5 | .h6 => true
  | _ => false

/-- Tags of elements whose end may be left out: an enclosing end closes them silently. -/
def mayBeUnclosed : Tag → Bool
  | .dd | .dt | .li | .option | .optgroup | .p | .rb | .rp | .rt | .rtc => true
  | _ => false

/-- The same with the parts of a table, for the end of a template. -/
def mayBeUnclosedInTemplate : Tag → Bool
  | .caption | .colgroup | .tbody | .td | .tfoot | .th | .thead | .tr => true
  | tag => tag.mayBeUnclosed

/-- Tags of structural elements: a generic end tag does not reach past them. -/
def isSpecial : Tag → Bool
  | .address | .applet | .area | .article | .aside | .base | .basefont | .bgsound | .blockquote
  | .body | .br | .button | .caption | .center | .col | .colgroup | .dd | .details | .dir | .div
  | .dl | .dt | .embed | .fieldset | .figcaption | .figure | .footer | .form | .frame | .frameset
  | .h1 | .h2 | .h3 | .h4 | .h5 | .h6 | .head | .header | .hgroup | .hr | .html | .iframe | .img
  | .input | .isindex | .li | .link | .listing | .mainPart | .marquee | .menu | .metaInfo | .nav
  | .noembed | .noframes | .noscript | .object | .ol | .p | .param | .plaintext | .pre | .script
  | .search | .sectionPart | .select | .source | .style | .summary | .table | .tbody | .td | .template
  | .textarea | .tfoot | .th | .thead | .title | .tr | .track | .ul | .wbr | .xmp => true
  | _ => false

/-- Start tags that end embedded drawing or formula content. -/
def leavesForeign : Tag → Bool
  | .b | .big | .blockquote | .body | .br | .center | .code | .dd | .div | .dl | .dt | .em | .embed
  | .h1 | .h2 | .h3 | .h4 | .h5 | .h6 | .head | .hr | .i | .img | .li | .listing | .menu | .metaInfo
  | .nobr | .ol | .p | .pre | .ruby | .s | .small | .span | .strong | .strike | .sub | .sup | .table
  | .tt | .u | .ul | .var => true
  | _ => false

end Tag

/-! ## Name spaces -/

/-- The language an element belongs to. -/
inductive Space where
  | html | svg | math
  deriving DecidableEq, Repr

/-- The full name of an element. -/
structure Name where
  space : Space
  tag : Tag
  deriving DecidableEq, Repr

namespace Name

/-- Is this the page-language element `t`? -/
def isHtml (n : Name) (t : Tag) : Bool := n.space == .html && n.tag == t

/-- Is this a page-language element whose tag passes `p`? -/
def htmlIn (p : Tag → Bool) (n : Name) : Bool := n.space == .html && p n.tag

/-- Formula elements that hold plain page text. -/
def holdsFormulaText (n : Name) : Bool :=
  n.space == .math && (match n.tag with | .mi | .mo | .mn | .ms | .mtext => true | _ => false)

/-- Drawing elements that hold page content. -/
def holdsPageContent (n : Name) : Bool :=
  n.space == .svg && (match n.tag with | .foreignObject | .desc | .title => true | _ => false)

/-! ## What stops a search of the open elements -/

/-- The ordinary limit of a search. -/
def endsScope (n : Name) : Bool :=
  n.htmlIn (fun | .applet | .caption | .html | .table | .td | .th | .marquee | .object | .template => true
                | _ => false)
    || n.holdsFormulaText || n.holdsPageContent

/-- The limit for list items. -/
def endsListScope (n : Name) : Bool :=
  n.endsScope || n.htmlIn (fun | .ol | .ul => true | _ => false)

/-- The limit for paragraphs. -/
def endsButtonScope (n : Name) : Bool := n.endsScope || n.isHtml .button

/-- The limit inside tables. -/
def endsTableScope : Name → Bool :=
  htmlIn fun | .html | .table | .template => true | _ => false

/-- The limit inside selection lists: everything but the options and their groups. -/
def endsSelectScope (n : Name) : Bool :=
  !n.htmlIn fun | .optgroup | .option => true | _ => false

/-! ## Where the parts of a table belong -/

/-- Elements under which a table section is in place. -/
def holdsSections : Name → Bool := endsTableScope

/-- Elements under which a row is in place. -/
def holdsRows : Name → Bool :=
  htmlIn fun | .tbody | .tfoot | .thead | .template | .html => true | _ => false

/-- Elements under which a cell is in place. -/
def holdsCells : Name → Bool := htmlIn fun | .tr | .template | .html => true | _ => false

/-- Cells. -/
def isCell : Name → Bool := htmlIn fun | .td | .th => true | _ => false

/-- Table elements that hold no text themselves: stray content is placed before the table. -/
def rejectsText : Name → Bool :=
  htmlIn fun | .table | .tbody | .tfoot | .thead | .tr => true | _ => false

end Name

end DocStub.Markup

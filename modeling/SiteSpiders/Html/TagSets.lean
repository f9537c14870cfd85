import SiteSpiders.Html.Node
import SiteSpiders.Html.Token

/-!
# Kinds of elements

The sets of elements that building a page tells apart, and the document types
that ask for the older layout rules.
-/
namespace SiteSpiders.Html

abbrev TagSet := Tag → Bool

/-- The ordinary elements of some names. -/
def named (names : List String) : TagSet := fun t => t.space == .html && names.contains t.name

/-- Elements of formulas whose content is ordinary text. -/
def formulaText : TagSet := fun t =>
  t.space == .mathml && ["mi", "mo", "mn", "ms", "mtext"].contains t.name

/-- Elements of drawings whose content is ordinary markup. -/
def drawingMarkup : TagSet := fun t =>
  t.space == .svg && ["foreignObject", "desc", "title"].contains t.name

/-- Elements that bound the search for an open element. -/
def ordinaryScope : TagSet := fun t =>
  named ["applet", "caption", "html", "table", "td", "th", "marquee", "object", "template"] t ||
    formulaText t || drawingMarkup t

def listScope : TagSet := fun t => ordinaryScope t || named ["ol", "ul"] t

def buttonScope : TagSet := fun t => ordinaryScope t || named ["button"] t

def tableScope : TagSet := named ["html", "table", "template"]

/-- Bounds inside a choice list: all but its own parts. -/
def selectScope : TagSet := fun t => !named ["optgroup", "option"] t

/-- What a table body may hold on to. -/
def bodyContext : TagSet := named ["tbody", "tfoot", "thead", "template", "html"]

/-- What a table row may hold on to. -/
def rowContext : TagSet := named ["tr", "template", "html"]

/-- Elements whose end may be left out. -/
def impliedEnd : TagSet :=
  named ["dd", "dt", "li", "option", "optgroup", "p", "rb", "rp", "rt", "rtc"]

/-- Elements whose end may be left out at the end of a template. -/
def thoroughEnd : TagSet := fun t =>
  impliedEnd t || named ["caption", "colgroup", "tbody", "td", "tfoot", "th", "thead", "tr"] t

def headings : List String := ["h1", "h2", "h3", "h4", "h5", "h6"]

/-- The parts of a table that hold no text of their own. -/
def tableParts : TagSet := named ["table", "tbody", "tfoot", "thead", "tr"]

def tableCells : TagSet := named ["td", "th"]

/-- Elements an unknown end tag does not reach past. -/
def special : TagSet := named
  ["address", "applet", "area", "article", "aside", "base", "basefont", "bgsound", "blockquote",
   "body", "br", "button", "caption", "center", "col", "colgroup", "dd", "details", "dir", "div",
   "dl", "dt", "embed", "fieldset", "figcaption", "figure", "footer", "form", "frame", "frameset",
   "h1", "h2", "h3", "h4", "h5", "h6", "head", "header", "hgroup", "hr", "html", "iframe", "img",
   "input", "isindex", "li", "link", "listing", "main", "marquee", "menu", "meta", "nav",
   "noembed", "noframes", "noscript", "object", "ol", "p", "param", "plaintext", "pre", "script",
   "section", "select", "source", "style", "summary", "table", "tbody", "td", "template",
   "textarea", "tfoot", "th", "thead", "title", "tr", "track", "ul", "wbr", "xmp"]

/-- Special elements that a new list item does not reach past. -/
def listBarrier : TagSet := fun t => special t && !named ["address", "div", "p"] t

/-- Ordinary start tags that end a drawing or a formula. -/
def breakouts : List String :=
  ["b", "big", "blockquote", "body", "br", "center", "code", "dd", "div", "dl", "dt", "em",
   "embed", "h1", "h2", "h3", "h4", "h5", "h6", "head", "hr", "i", "img", "li", "listing", "menu",
   "meta", "nobr", "ol", "p", "pre", "ruby", "s", "small", "span", "strong", "strike", "sub",
   "sup", "table", "tt", "u", "ul", "var"]

/-- Names of drawing elements that are written with capitals. -/
def drawingNames : List String :=
  ["altGlyph", "altGlyphDef", "altGlyphItem", "animateColor", "animateMotion", "animateTransform",
   "clipPath", "feBlend", "feColorMatrix", "feComponentTransfer", "feComposite",
   "feConvolveMatrix", "feDiffuseLighting", "feDisplacementMap", "feDistantLight", "feDropShadow",
   "feFlood", "feFuncA", "feFuncB", "feFuncG", "feFuncR", "feGaussianBlur", "feImage", "feMerge",
   "feMergeNode", "feMorphology", "feOffset", "fePointLight", "feSpecularLighting", "feSpotLight",
   "feTile", "feTurbulence", "foreignObject", "glyphRef", "linearGradient", "radialGradient",
   "textPath"]

/-- The proper name of a drawing element from its lower-case name. -/
def drawingName (name : String) : String :=
  (drawingNames.find? fun n => n.toLower == name).getD name

/-- Public identifiers, in lower case, whose documents use the older rules. -/
def oldPublicStarts : List String :=
  ["-//advasoft ltd//dtd html 3.0 aswedit + extensions//",
   "-//as//dtd html 3.0 aswedit + extensions//",
   "-//ietf//dtd html 2.0 level 1//", "-//ietf//dtd html 2.0 level 2//",
   "-//ietf//dtd html 2.0 strict level 1//", "-//ietf//dtd html 2.0 strict level 2//",
   "-//ietf//dtd html 2.0 strict//", "-//ietf//dtd html 2.0//", "-//ietf//dtd html 2.1e//",
   "-//ietf//dtd html 3.0//", "-//ietf//dtd html 3.2 final//", "-//ietf//dtd html 3.2//",
   "-//ietf//dtd html 3//", "-//ietf//dtd html level 0//", "-//ietf//dtd html level 1//",
   "-//ietf//dtd html level 2//", "-//ietf//dtd html level 3//",
   "-//ietf//dtd html strict level 0//", "-//ietf//dtd html strict level 1//",
   "-//ietf//dtd html strict level 2//", "-//ietf//dtd html strict level 3//",
   "-//ietf//dtd html strict//", "-//ietf//dtd html//",
   "-//metrius//dtd metrius presentational//",
   "-//microsoft//dtd internet explorer 2.0 html strict//",
   "-//microsoft//dtd internet explorer 2.0 html//",
   "-//microsoft//dtd internet explorer 2.0 tables//",
   "-//microsoft//dtd internet explorer 3.0 html strict//",
   "-//microsoft//dtd internet explorer 3.0 html//",
   "-//microsoft//dtd internet explorer 3.0 tables//",
   "-//netscape comm. corp.//dtd html//", "-//netscape comm. corp.//dtd strict html//",
   "-//o'reilly and associates//dtd html 2.0//",
   "-//o'reilly and associates//dtd html extended 1.0//",
   "-//o'reilly and associates//dtd html extended relaxed 1.0//",
   "-//softquad software//dtd hotmetal pro 6.0::19990601::extensions to html 4.0//",
   "-//softquad//dtd hotmetal pro 4.0::19971010::extensions to html 4.0//",
   "-//spyglass//dtd html 2.0 extended//", "-//sq//dtd html 2.0 hotmetal + extensions//",
   "-//sun microsystems corp.//dtd hotjava html//",
   "-//sun microsystems corp.//dtd hotjava strict html//",
   "-//w3c//dtd html 3 1995-03-24//", "-//w3c//dtd html 3.2 draft//",
   "-//w3c//dtd html 3.2 final//", "-//w3c//dtd html 3.2//", "-//w3c//dtd html 3.2s draft//",
   "-//w3c//dtd html 4.0 frameset//", "-//w3c//dtd html 4.0 transitional//",
   "-//w3c//dtd html experimental 19960712//", "-//w3c//dtd html experimental 970421//",
   "-//w3c//dtd w3 html//", "-//w3o//dtd w3 html 3.0//", "-//webtechs//dtd mozilla html 2.0//",
   "-//webtechs//dtd mozilla html//"]

/-- Public identifiers, in lower case, that use the older rules as they stand. -/
def oldPublicTexts : List String :=
  ["-//w3o//dtd w3 html strict 3.0//en//", "-/w3c/dtd html 4.0 transitional/en", "html"]

/-- Public identifiers that use the older rules when no system identifier follows. -/
def loosePublicStarts : List String :=
  ["-//w3c//dtd html 4.01 frameset//", "-//w3c//dtd html 4.01 transitional//"]

/-- The system identifier, in lower case and after its scheme, that uses the older rules. -/
def oldSystemText : String := "//www.ibm.com/data/dtd/v11/ibmxhtml1-transitional.dtd"

/-- Whether a document type asks for the older rules. -/
def Doctype.isOld (d : Doctype) : Bool :=
  let publicText := d.publicId.map String.toLower
  let starts := fun (texts : List String) =>
    publicText.any fun p => texts.any fun t => t.toList.isPrefixOf p.toList
  d.broken || d.name != "html" ||
    (publicText.any fun p => oldPublicTexts.contains p) ||
    (d.systemId.map String.toLower == some ("http:" ++ oldSystemText)) ||
    starts oldPublicStarts ||
    (starts loosePublicStarts && d.systemId.isNone)

end SiteSpiders.Html

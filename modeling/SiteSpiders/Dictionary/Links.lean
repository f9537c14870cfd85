import SiteSpiders.Html.Parser
import SiteSpiders.Html.Selector
import SiteSpiders.Pattern.Basic
import SiteSpiders.Text.Blank
import SiteSpiders.Url.Parser

/-!
# Links of the dictionary

The links that lead from the letters to the pinyin indexes, from there to the groups
of characters, and from a group to its characters.
-/
namespace SiteSpiders.Dictionary

open Html

/-- The links to the pinyin indexes. -/
def pinyinLinks : Selector :=
  [[.attribute "id" "danzi"], [.name "div", .nth 1], [.name "div"], [.name "div", .nth 2],
   [.name "div", .nth 2], [.name "ul"], [.name "li"], [.name "a"]]

/-- The links to groups of characters. -/
def groupLinks : Selector := [divOfClass "pyjs_c", [.name "div"], [.name "a"]]

def characterItems : Selector := [divOfClass "box_content", [.name "div"], [.name "a"]]

/-- The targets of the links a selector names. -/
def linkTargets (page : Document) (selector : Selector) : List String :=
  (page.select selector).filterMap (Node.attribute? "href")

/-- The address of a group page: a scheme, a host, and one path segment of a word and a number. -/
def groupPattern : Pattern :=
  .sequence
    [.literal "http", .optional (.char 's'), .literal "://",
     .oneOrMore (.one fun c => c != '/' && !Text.isBlank c), .literal "/zi_",
     .oneOrMore (.one Unicode.isWord), .char '_', .oneOrMore (.one Unicode.isDecimalDigit),
     .char '/']

/-- The address of the group page inside an address, if there is one. -/
def groupUrl? (url : Url) : Option Url :=
  let cs := url.text.toList
  match groupPattern.find? cs with
  | none => none
  | some found => (Url.parse (String.ofList (found.text cs))).toOption

/-- A character on a list, with the address of its page. -/
structure CharacterLink where
  url : Url
  name : String
  deriving DecidableEq

/-- The link of an anchor that has a target that resolves and a title. -/
def characterLink? (base : Url) (anchor : Node) : Option CharacterLink := do
  let href ← anchor.attribute? "href"
  let name ← anchor.attribute? "title"
  let url ← base.follow href
  pure { url, name }

/-- The characters of a list page, in page order. -/
def characterLinks (page : Document) (base : Url) : List CharacterLink :=
  (page.select characterItems).filterMap (characterLink? base)

end SiteSpiders.Dictionary

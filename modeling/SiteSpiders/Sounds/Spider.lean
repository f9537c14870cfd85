import SiteSpiders.Crawl.Spider
import SiteSpiders.Html.Parser
import SiteSpiders.Html.Selector
import SiteSpiders.Storage.Keep

/-!
# The sounds spider

The tracks of an album, from one list page to the next.
-/
namespace SiteSpiders.Sounds

open Html Storage

/-- Where the crawl starts by default. -/
def defaultStart : String := "https://www.ximalaya.com/youshengshu/12576446/p1"

/-- The limits of the crawl. List pages follow one another at one depth. -/
def defaultConfig : Config where
  maxDepth := 1

def collection : String := "sounds"

/-- The second block of the sound list. -/
def soundList : Selector := [[.attribute "id" "anchor_sound_list"], [.name "div", .nth 2]]

def trackItems : Selector :=
  soundList ++
    [[.name "ul"], [.name "li"], [.name "div", .nth 2], [.name "a", .hasAttribute "href"]]

/-- The link in the last entry of the pager. -/
def pagerItems : Selector :=
  soundList ++
    [[.name "div"], [.name "nav"], [.name "ul"], [.name "li", .last],
     [.name "a", .hasAttribute "href"]]

/-- The address a link leads to. -/
def target? (base : Url) (anchor : Node) : Option Url :=
  (anchor.attribute? "href").bind base.follow

/-- The addresses of the tracks on a page. -/
def trackLinks (page : Document) (base : Url) : List Url :=
  (page.select trackItems).filterMap (target? base)

/-- The address of the next list page. -/
def nextPage? (page : Document) (base : Url) : Option Url :=
  ((page.select pagerItems).head?).bind (target? base)

/-- The record of a track found on a page. -/
def trackItem (r : Response) (track : Url) : Item where
  url := r.url
  data := .object [("address", .string track.text)]
  metadata := some (.object [("spider", .string "sounds")])

/-- What follows a list page: the next one, at the same depth. -/
def continuation (r : Response) (page : Document) : Outcome :=
  match nextPage? page r.url with
  | some url => .proceed [{ url, stage := .item, depth := r.request.depth }]
  | none => .skip

/-- Keeps the tracks of a list page and goes on to the next page. -/
def read (r : Response) : Reading Output :=
  match r.request.stage with
  | .bootstrap | .item =>
    let page := Html.parse r.body
    keepThen collection (continuation r page) ((trackLinks page r.url).map (trackItem r))
  | _ => .done .skip

/-- The sounds spider from an address. -/
def spider (start : Url) (config : Config) : Spider Output where
  name := "sounds"
  start := [start]
  config := config
  domains := domainsOf start
  read := read

end SiteSpiders.Sounds

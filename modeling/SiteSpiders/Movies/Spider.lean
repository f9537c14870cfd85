import SiteSpiders.Crawl.Spider
import SiteSpiders.Html.Parser
import SiteSpiders.Html.Selector
import SiteSpiders.Movies.Rule
import SiteSpiders.Storage.Keep

/-!
# The movies spider

A crawl driven by link rules, which keeps the download links of the pages that a
rule sets apart.
-/
namespace SiteSpiders.Movies

open Html Storage

/-- Where the crawl starts by default. -/
def defaultStart : String := "https://www.ygdy8.net/"

/-- The collection of the download links. -/
def collection : String := "movies"

/-- The stage of pages that are only followed. -/
def followStage : Stage := .custom "follow"

def anchors : Selector := [[.name "a", .hasAttribute "href"]]

/-- Drops what was there before, by the text of the addresses. -/
def distinct (seen : List String) : List Url → List Url
  | [] => []
  | u :: rest =>
    if seen.contains u.text then distinct seen rest else u :: distinct (u.text :: seen) rest

/-- Whether an address is one of the web. -/
def isWeb (u : Url) : Bool := u.scheme == "http" || u.scheme == "https"

/-- The addresses a page links to, without fragments, each once and in page order. -/
def pageLinks (page : Document) (base : Url) : List Url :=
  distinct [] (((((page.select anchors).filterMap (Node.attribute? "href")).filterMap
    base.follow).filter isWeb).map Url.withoutFragment)

/-- A download link in the text of a page. -/
def downloadPattern : Pattern :=
  .sequence [.literal "<a href=\"", .group 1 (.fewest anyOnLine), .literal "\">ftp"]

/-- The download links in the text of a page, in order. -/
def downloadLinks (body : String) : List String :=
  let cs := body.toList
  (downloadPattern.findAll cs).map fun m => String.ofList ((m.groupText cs 1).getD [])

/-- The requests of rules for links, a link going to the first rule that claims it. -/
def claimLinks (depth : Nat) : Nat → List LinkRule → List Url → List Request
  | _, [], _ => []
  | i, rule :: rules, links =>
    ((links.filter rule.claims).map fun url =>
      { url, stage := rule.stage.getD followStage, depth, note := some (ruleNote i) }) ++
      claimLinks depth (i + 1) rules (links.filter fun url => !rule.claims url)

/-- The requests for the links of a page. -/
def ruleRequests (rules : List LinkRule) (r : Response) (depth : Nat) : List Request :=
  claimLinks depth 0 rules (pageLinks (Html.parse r.body) r.url)

/-- Whether the links of a page are followed: those of a start page are, and those of a page that
a rule claimed if the rule says so. -/
def follows (rules : List LinkRule) (r : Response) : Except Fault Bool :=
  match r.request.readNote readRule with
  | .error fault => .error fault
  | .ok none => .ok true
  | .ok (some i) => .ok ((rules[i]?).any fun rule => rule.follow)

/-- The record of a download link found on a page. -/
def downloadItem (r : Response) (link : String) : Item where
  url := r.url
  data := .object [("movie_url", .string link)]

/-- What a page leads to by the rules. -/
def continuation (rules : List LinkRule) (r : Response) : Outcome :=
  match follows rules r with
  | .error fault => .failed fault
  | .ok false => .skip
  | .ok true =>
    match r.nextDepth with
    | .error crash => .crashed crash
    | .ok depth => .proceed (ruleRequests rules r depth)

/-- Keeps the download links of a page that is set apart, and follows its links. -/
def read (rules : List LinkRule) (r : Response) : Reading Output :=
  let items := if r.request.stage = .item then (downloadLinks r.body).map (downloadItem r) else []
  keepThen collection (continuation rules r) items

/-- The movies spider from an address. -/
def spider (rules : List LinkRule) (start : Url) (config : Config) : Spider Output where
  name := "movies"
  start := [start]
  config := config
  domains := domainsOf start
  read := read rules

end SiteSpiders.Movies

import SiteSpiders.Crawl.Spider
import SiteSpiders.Html.Parser
import SiteSpiders.Html.Selector
import SiteSpiders.Storage.Keep

/-!
# The jobs spider

Job postings from a listing page, kept one by one.
-/
namespace SiteSpiders.Jobs

open Html Storage

/-- Where the crawl starts by default. -/
def defaultStart : String := "https://careers.tencent.com/search.html"

def defaultConfig : Config where
  maxDepth := 1

def collection : String := "jobs"

structure Posting where
  name : String := ""
  title : String := ""
  info : String := ""
  deriving DecidableEq, Repr

def postingBlocks : Selector := [divOfClass "li_txt"]

/-- The first text right in a child of some name, or the empty text. -/
def firstChildText (block : Node) (name : String) : String :=
  (((block.childrenNamed name).flatMap Node.directTexts).head?).getD ""

def postingOf (block : Node) : Posting where
  name := firstChildText block "h3"
  title := firstChildText block "h4"
  info := firstChildText block "p"

def postings (page : Document) : List Posting := (page.select postingBlocks).map postingOf

def Posting.json (p : Posting) : Json :=
  .object [("info", .string p.info), ("name", .string p.name), ("title", .string p.title)]

/-- The record of a posting found on a page. -/
def Posting.item (r : Response) (p : Posting) : Item where
  url := r.url
  data := p.json
  metadata := some (.object [("spider", .string "jobs"), ("status", .ofNat r.status)])

/-- Keeps the postings of a listing page. -/
def read (r : Response) : Reading Output :=
  match r.request.stage with
  | .bootstrap | .item =>
    keepThen collection .skip ((postings (Html.parse r.body)).map (Posting.item r))
  | _ => .done .skip

/-- The jobs spider from an address. -/
def spider (start : Url) (config : Config) : Spider Output where
  name := "jobs"
  start := [start]
  config := config
  read := read

end SiteSpiders.Jobs

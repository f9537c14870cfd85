import SiteSpiders.Crawl.Spider
import SiteSpiders.Dictionary.Links
import SiteSpiders.Dictionary.Store

/-!
# The dictionary spider

A crawl of a character dictionary in four stages: the letters, the pinyin indexes, the
lists of characters, and the characters. A character that is stored already is not
fetched again.
-/
namespace SiteSpiders.Dictionary

abbrev DictionaryDesk := Desk GuardedStore

/-- Where the crawl starts by default. -/
def defaultStart : String := "https://www.chazidian.com/"

def defaultConfig : Config where
  maxDepth := 4
  maxConcurrency := 32
  retry := .polite
  headers := [("Referer", "https://www.chazidian.com/zi_a/"), ("Upgrade-Insecure-Requests", "1")]

/-- The outcome of following links, unless the depth overflows. -/
def proceedAt (r : Response) (requests : Nat → List Request) : Outcome :=
  match r.nextDepth with
  | .error crash => .crashed crash
  | .ok depth => .proceed (requests depth)

/-- The requests for the pinyin indexes linked from a page. -/
def pinyinRequests (r : Response) (depth : Nat) : List Request :=
  ((linkTargets (Html.parse r.body) pinyinLinks).filterMap r.follow).map fun url =>
    { url, stage := .pinyinIndex, depth }

/-- The requests for the groups of characters linked from a page. -/
def groupRequests (r : Response) (depth : Nat) : List Request :=
  ((linkTargets (Html.parse r.body) groupLinks).filterMap fun href =>
    (r.follow href).bind groupUrl?).map fun url => { url, stage := .characterList, depth }

/-- The request for the page of a character. -/
def characterRequest (depth : Nat) (link : CharacterLink) : Request where
  url := link.url
  stage := .character
  depth := depth
  note := some (nameNote link.name)

/-- Asks the store for the characters of some links in turn, and requests those that are not
there, after those `found` so far. -/
def checkLinks (depth : Nat) : List CharacterLink → List Request → Reading GuardedStore
  | [], found => .done (.proceed found)
  | link :: rest, found =>
    .ask (fun g => g.knows link.name) fun
      | .ok false => checkLinks depth rest (found ++ [characterRequest depth link])
      | .ok true => .count .duplicate (checkLinks depth rest found)
      | .error _ => .count .storageError (checkLinks depth rest found)

/-- The entry that the page of a character describes. -/
def entryOf (r : Response) : Except Fault Entry :=
  match r.request.readNote readName with
  | .error fault => .error fault
  | .ok none => .error (.missingContext "character name")
  | .ok (some name) => .ok (.ofDetail name (.ofText r.body))

/-- Stores an entry, and counts it or its failure. -/
def storeEntry (e : Entry) : Reading GuardedStore :=
  .ask (fun g => g.insert e) fun
    | .ok () => .count .item (.done .skip)
    | .error _ => .count .storageError (.done .skip)

/-- Reads a page by its stage. -/
def read (r : Response) : Reading GuardedStore :=
  match r.request.stage with
  | .bootstrap => .done (proceedAt r (pinyinRequests r))
  | .pinyinIndex => .done (proceedAt r (groupRequests r))
  | .characterList =>
    match r.nextDepth with
    | .error crash => .done (.crashed crash)
    | .ok depth => checkLinks depth (characterLinks (Html.parse r.body) r.url) []
  | .character =>
    match entryOf r with
    | .error fault => .done (.failed fault)
    | .ok e => storeEntry e
  | _ => .done .skip

/-- Prepares the store. A store that cannot be prepared is counted and no more. -/
def prepare (desk : DictionaryDesk) : Except Fault Unit × DictionaryDesk :=
  let (result, store) := desk.store.ensureSchema
  let desk := { desk with store }
  match result with
  | .ok () => (.ok (), desk)
  | .error _ => (.ok (), desk.note fun s => s.countStorageError)

/-- The dictionary spider from an address. -/
def spider (start : Url) (config : Config) : Spider GuardedStore where
  name := "dictionary"
  start := [start]
  config := config
  domains := domainsOf start
  onOpen := prepare
  read := read

end SiteSpiders.Dictionary

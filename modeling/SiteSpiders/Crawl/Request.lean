import SiteSpiders.Crawl.Fault
import SiteSpiders.Retry.Counters
import SiteSpiders.Url.Parser

/-!
# Requests and responses

A request names an address, the stage at which its page is read, and what the page
that asked for it sends along.
-/
namespace SiteSpiders

inductive Stage where
  | bootstrap
  | pinyinIndex
  | characterList
  | character
  | item
  | custom (name : String)
  deriving DecidableEq, Repr, Inhabited

structure Request where
  url : Url
  stage : Stage := .bootstrap
  depth : Nat := 0
  headers : List (String × String) := []
  note : Option Json := none
  deriving Inhabited

/-- The first request of a crawl for an address. -/
def Request.start (url : Url) : Request := { url }

/-- Reads what a request carries along, if it carries anything. -/
def Request.readNote (r : Request) (read : Json → Except JsonFault α) :
    Except Fault (Option α) :=
  match r.note with
  | none => .ok none
  | some j => match read j with
    | .ok value => .ok (some value)
    | .error f => .error (.json f)

structure Response where
  url : Url
  status : Nat
  body : String
  retryCount : Nat := 0
  retryHistory : List (Retry.Category × Nat) := []
  request : Request
  deriving Inhabited

/-- Resolves a link found in a page. -/
def Response.follow (r : Response) (link : String) : Option Url := r.url.follow link

/-- The depth of the pages a response leads to. -/
def Response.nextDepth (r : Response) : Except Crash Nat := addWord r.request.depth 1

theorem Response.nextDepth_of_lt {r : Response} (room : r.request.depth + 1 < wordBound) :
    r.nextDepth = .ok (r.request.depth + 1) := if_pos room

end SiteSpiders

import SiteSpiders.Crawl.Fault
import SiteSpiders.Retry.Duration
import SiteSpiders.Url.Parser

/-!
# Sites

A site answers an exchange according to the exchanges before it, and says which
address the answer came from. A canned site plays a list of answers for each
address and then repeats the last one; it never leads to another address.
-/
namespace SiteSpiders

structure Answer where
  status : Nat := 200
  body : String := ""
  delay : Option Retry.Duration := none

/-- An answer with the address it came from, which need not be the one that was asked for. -/
structure Arrival extends Answer where
  url : Url

/-- A site: its reply to an address, given the addresses asked for before, latest first. -/
structure Site where
  reply : List Url → Url → Except Fault Arrival

/-- Answers by address, and the addresses that cannot be reached. -/
structure CannedSite where
  routes : List (String × List Answer) := []
  unreachable : List String := []

namespace CannedSite

/-- Sets the answers of an address. -/
def addRoute (s : CannedSite) (address : String) (answers : List Answer) : CannedSite :=
  let key := match Url.parse address with
    | .ok u => u.text
    | .error _ => address
  { s with routes := (key, answers) :: s.routes.filter fun r => r.1 != key }

/-- The answer to the exchange with an address that has been asked so many times before. -/
def answer (s : CannedSite) (address : String) (earlier : Nat) : Answer :=
  match s.routes.lookup address with
  | some answers =>
    match answers[earlier]? with
    | some a => a
    | none => answers.getLast?.getD { status := 404 }
  | none => { status := 404 }

/-- The site that plays canned answers. -/
def site (s : CannedSite) : Site where
  reply earlier url :=
    if s.unreachable.contains url.text then .error (.exchange "unreachable")
    else .ok { s.answer url.text (earlier.countP fun u => u.text == url.text) with url }

end CannedSite

end SiteSpiders

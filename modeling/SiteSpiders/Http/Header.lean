import SiteSpiders.Crawl.Fault
import SiteSpiders.Text.Utf8

/-!
# Request headers

Headers that may be sent along with every request.
-/
namespace SiteSpiders.Http

inductive HeaderFault where
  | name
  | value
  deriving DecidableEq, Repr

/-- The text of a header error. -/
def HeaderFault.message : HeaderFault → String
  | .name => "Invalid header name: invalid HTTP header name"
  | .value => "Invalid header value: failed to parse header value"

/-- A character of a header name. -/
def isNameChar (c : Char) : Bool :=
  c.isAlphanum || "!#$%&'*+-.^_`|~".toList.contains c

def longestHeaderName : Nat := 65535

/-- Whether a text is a header name. -/
def isHeaderName (s : String) : Bool :=
  !s.isEmpty && s.toList.all isNameChar && s.length ≤ longestHeaderName

/-- Whether a text is a header value: visible, blanks and tabs, and not empty. -/
def isHeaderValue (s : String) : Bool :=
  !s.isEmpty && s.toList.all fun c => c == '\t' || (32 ≤ c.toNat && c.toNat != 127)

/-- Checks headers in turn, the name of each before its value. -/
def checkHeaders : List (String × String) → Except HeaderFault Unit
  | [] => .ok ()
  | (name, value) :: rest =>
    if !isHeaderName name then .error .name
    else if !isHeaderValue value then .error .value
    else checkHeaders rest

/-- A header error as a failure of a crawl. -/
def HeaderFault.fault (f : HeaderFault) : Fault := .parsing f.message

end SiteSpiders.Http

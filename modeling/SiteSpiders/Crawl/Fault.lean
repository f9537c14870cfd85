import SiteSpiders.Json.Decode
import SiteSpiders.Storage.Fault

/-!
# Failures of a crawl

The causes with which reading a page, fetching it or keeping its records fails.
-/
namespace SiteSpiders

inductive Fault where
  | url (error : UrlError)
  /-- The exchange itself failed. -/
  | exchange (text : String)
  | json (fault : JsonFault)
  /-- A pattern is not well formed. -/
  | pattern
  | parsing (text : String)
  /-- A request does not carry what its page needs. -/
  | missingContext (what : String)
  | storage (fault : Storage.StorageFault)
  deriving DecidableEq, Repr

def Fault.message : Fault → String
  | .url e => "URL parsing error: " ++ e.message
  | .exchange text => "IO error: " ++ text
  | .json f => "JSON error: " ++ f.message
  | .pattern => "Invalid pattern"
  | .parsing text => "Parsing error: " ++ text
  | .missingContext what => "Missing request context: " ++ what
  | .storage f => "Storage error: " ++ f.message

end SiteSpiders

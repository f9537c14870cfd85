import SiteSpiders.Text.Blank
import SiteSpiders.Url.Parser

/-!
# Settings

What a run of the program is told by its environment. A blank value counts as none.
-/
namespace SiteSpiders

inductive SpiderKind where
  | dictionary
  | jobs
  | movies
  | sounds
  deriving DecidableEq, Repr, Inhabited

def SpiderKind.name : SpiderKind → String
  | .dictionary => "dictionary"
  | .jobs => "jobs"
  | .movies => "movies"
  | .sounds => "sounds"

inductive SettingsError where
  /-- The name after trimming and in lower case. -/
  | unknownSpider (name : String)
  /-- The value as it was given. -/
  | invalidNumber (key value : String)
  | invalidUrl (error : UrlError)
  deriving DecidableEq, Repr

def SettingsError.message : SettingsError → String
  | .unknownSpider name =>
    "Unknown spider '" ++ name ++ "', expected dictionary, jobs, movies or sounds"
  | .invalidNumber key value => "Invalid value '" ++ value ++ "' for " ++ key
  | .invalidUrl e => "Invalid start URL: " ++ e.message

/-- A text with ASCII capitals in lower case. -/
def asciiLower (s : String) : String := String.ofList (s.toList.map Char.toLower)

/-- The spider of a name, blanks around it and the case of ASCII letters aside. -/
def SpiderKind.ofName (s : String) : Except SettingsError SpiderKind :=
  match asciiLower (Text.trim s) with
  | "dictionary" | "words" => .ok .dictionary
  | "jobs" => .ok .jobs
  | "movies" => .ok .movies
  | "sounds" => .ok .sounds
  | other => .error (.unknownSpider other)

/-- A natural number below the word bound, written in digits after an optional plus sign. -/
def readWord (cs : List Char) : Option Nat :=
  let digits := match cs with
    | '+' :: rest => rest
    | _ => cs
  if !digits.isEmpty && digits.all Char.isDigit then
    let n := digits.foldl (fun n c => n * 10 + (c.toNat - '0'.toNat)) 0
    if n < Nat.pow 2 64 then some n else none
  else none

structure Settings where
  spider : SpiderKind := .dictionary
  /-- The database of the dictionary; entries stay in memory without one. -/
  databaseUrl : Option String := none
  /-- The directory of the records. -/
  output : String := "data"
  concurrency : Option Nat := none
  startUrl : Option Url := none

namespace Settings

def spiderKey : String := "WORDSCRAPER_SPIDER"
def databaseKey : String := "DATABASE_URL"
def outputKey : String := "WORDSCRAPER_OUTPUT"
def concurrencyKey : String := "WORDSCRAPER_CONCURRENCY"
def startUrlKey : String := "WORDSCRAPER_START_URL"

/-- A value that is not blank. -/
def value? (lookup : String → Option String) (key : String) : Option String :=
  (lookup key).filter fun v => !Text.isBlankText v

def readSpider : Option String → Except SettingsError SpiderKind
  | none => .ok .dictionary
  | some s => SpiderKind.ofName s

/-- Reads the number of pages fetched at a time. -/
def readConcurrency : Option String → Except SettingsError (Option Nat)
  | none => .ok none
  | some s =>
    match readWord (Text.trimList s.toList) with
    | some n => if 0 < n then .ok (some n) else .error (.invalidNumber concurrencyKey s)
    | none => .error (.invalidNumber concurrencyKey s)

def readStartUrl : Option String → Except SettingsError (Option Url)
  | none => .ok none
  | some s =>
    match Url.parse (Text.trim s) with
    | .ok u => .ok (some u)
    | .error e => .error (.invalidUrl e)

/-- Reads the settings; of several errors the first in this order is given. -/
def ofLookup (lookup : String → Option String) : Except SettingsError Settings := do
  let spider ← readSpider (value? lookup spiderKey)
  let concurrency ← readConcurrency (value? lookup concurrencyKey)
  let startUrl ← readStartUrl (value? lookup startUrlKey)
  pure
    { spider, concurrency, startUrl
      databaseUrl := value? lookup databaseKey
      output := (value? lookup outputKey).getD "data" }

end Settings

end SiteSpiders

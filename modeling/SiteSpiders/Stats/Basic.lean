import SiteSpiders.Crawl.Crash
import SiteSpiders.Number.Floating
import SiteSpiders.Retry.Counters

/-!
# Crawl statistics

What a crawl did, counted as it goes: requests by outcome and status, retries by
reason, and what the spiders stored. The average response time is kept up with
each request.
-/
namespace SiteSpiders.Stats

open Number

/-- The arithmetic in which an average is kept. -/
structure Arithmetic (α : Type) where
  ofInt : Int → α
  add : α → α → α
  mul : α → α → α
  div : α → α → α

def doubles : Arithmetic Floating := ⟨double.ofInt, double.add, double.mul, double.div⟩

/-- The average after one more value, given the average of the values before. `total` counts the
value. -/
def Arithmetic.nextAverage (k : Arithmetic α) (average : α) (total : Nat) (value : Int) : α :=
  k.div (k.add (k.mul average (k.ofInt (total - 1 : Nat))) (k.ofInt value)) (k.ofInt total)

structure Tally (α : Type) where
  finished : Bool := false
  totalRequests : Nat := 0
  successfulRequests : Nat := 0
  failedRequests : Nat := 0
  retryCount : Nat := 0
  bytesDownloaded : Nat := 0
  statusCodes : List (Nat × Nat) := []
  retryReasons : List (String × Nat) := []
  average : α
  parseErrors : Nat := 0
  storageErrors : Nat := 0
  itemsStored : Nat := 0
  duplicatesSkipped : Nat := 0
  deriving DecidableEq, Repr

/-- Adds one to the count of a key. -/
def bump [DecidableEq κ] (key : κ) (counts : List (κ × Nat)) : List (κ × Nat) :=
  Retry.assign key ((counts.lookup key).getD 0 + 1) counts

namespace Tally

variable {α : Type}

/-- Counts a response of a status. -/
def countResponse (t : Tally α) (status : Nat) : Tally α :=
  { t with
    totalRequests := t.totalRequests + 1
    successfulRequests := t.successfulRequests + (if status < 400 then 1 else 0)
    failedRequests := t.failedRequests + (if status < 400 then 0 else 1)
    statusCodes := bump status t.statusCodes }

/-- Records a request that was answered, with its size and its time in milliseconds. A size that
the byte count cannot hold breaks off before the average is kept up. -/
def recordRequest (k : Arithmetic α) (t : Tally α) (status size : Nat) (millis : Int) :
    Except Crash Unit × Tally α :=
  let t := t.countResponse status
  match addWord t.bytesDownloaded size with
  | .error crash => (.error crash, t)
  | .ok bytes =>
    (.ok (), { t with
      bytesDownloaded := bytes
      average := k.nextAverage t.average t.totalRequests millis })

/-- Records a request that was never answered. -/
def recordFailure (t : Tally α) : Tally α :=
  { t with totalRequests := t.totalRequests + 1, failedRequests := t.failedRequests + 1 }

/-- Records a retry for a reason. -/
def recordRetry (t : Tally α) (reason : String) : Tally α :=
  { t with retryCount := t.retryCount + 1, retryReasons := bump reason t.retryReasons }

/-- Counts a page that could not be read. -/
def countParseError (t : Tally α) : Tally α := { t with parseErrors := t.parseErrors + 1 }

/-- Counts a failure of a store. -/
def countStorageError (t : Tally α) : Tally α := { t with storageErrors := t.storageErrors + 1 }

def countItem (t : Tally α) : Tally α := { t with itemsStored := t.itemsStored + 1 }

def countDuplicate (t : Tally α) : Tally α :=
  { t with duplicatesSkipped := t.duplicatesSkipped + 1 }

def finish (t : Tally α) : Tally α := { t with finished := true }

end Tally

/-- Milliseconds of a signed number of microseconds, cut toward zero. -/
def millisOfMicros (micros : Int) : Int := micros.tdiv 1000

end SiteSpiders.Stats

namespace SiteSpiders

/-- Statistics with an average in double precision. -/
abbrev Stats := Stats.Tally Number.Floating

def Stats.empty : Stats := { average := Number.double.ofNat 0 }

end SiteSpiders

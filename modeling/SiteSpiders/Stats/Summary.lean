import SiteSpiders.Sorting
import SiteSpiders.Stats.Basic
import SiteSpiders.Text.Divide

/-!
# The summary of a crawl

The lines in which statistics are reported, but for the time a crawl took. Lines
of a block come in the order of their texts.
-/
namespace SiteSpiders.Stats

open Number

def blockLine (key : String) (count : Nat) : String :=
  "  " ++ key ++ ": " ++ decimalText count

/-- Whether a line belongs to a block. -/
def isBlockLine (line : String) : Bool := [' ', ' '].isPrefixOf line.toList

/-- Lines in the order of their texts. -/
def sortLines (lines : List String) : List String := Sorting.sortBy (fun a b => !(b < a)) lines

/-- Lines with those of each block in the order of their texts. `block` is the block before. -/
def sortBlocks (block : List String) : List String → List String
  | [] => sortLines block
  | line :: rest =>
    if isBlockLine line then sortBlocks (line :: block) rest
    else sortLines block ++ line :: sortBlocks [] rest

def megabytes (bytes : Nat) : Floating :=
  double.div (double.ofNat bytes) (double.ofNat 1000000)

/-- The texts of the summary in the order in which they are written. -/
def summaryTexts (s : Stats) : List String :=
  let count := fun (label : String) (n : Nat) => label ++ ": " ++ decimalText n
  ["", "Scraping Statistics:", "===================",
   count "Total Requests" s.totalRequests,
   count "Successful Requests" s.successfulRequests,
   count "Failed Requests" s.failedRequests,
   count "Retry Count" s.retryCount,
   "Data Downloaded: " ++ twoPlaces (megabytes s.bytesDownloaded) ++ " MB",
   "Average Response Time: " ++ twoPlaces s.average ++ "ms",
   count "Items Stored" s.itemsStored,
   count "Duplicates Skipped" s.duplicatesSkipped,
   count "Parse Errors" s.parseErrors,
   count "Storage Errors" s.storageErrors,
   "", "Status Codes:"] ++
  s.statusCodes.map (fun c => blockLine (decimalText c.1) c.2) ++
  (if s.retryReasons.isEmpty then []
   else ["", "Retry Reasons:"] ++ s.retryReasons.map fun r => blockLine r.1 r.2)

def summary (s : Stats) : List String :=
  sortBlocks [] ((summaryTexts s).flatMap fun t => Text.divideText '\n' t)

end SiteSpiders.Stats

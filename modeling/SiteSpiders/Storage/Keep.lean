import SiteSpiders.Crawl.Spider
import SiteSpiders.Storage.Disk

/-!
# Keeping the records of a page

The records of a page are stored and counted one by one; the first that cannot be
stored ends it.
-/
namespace SiteSpiders.Storage

/-- Stores records in turn, and goes on to an outcome if all are stored. -/
def keepThen (collection : String) (next : Outcome) : List Item → Reading Output
  | [] => .done next
  | item :: rest =>
    .ask (fun o => o.store item collection) fun
      | .error fault => .done (.failed (.storage fault))
      | .ok () => .count .item (keepThen collection next rest)

end SiteSpiders.Storage

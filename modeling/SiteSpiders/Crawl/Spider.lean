import SiteSpiders.Crawl.Request
import SiteSpiders.Stats.Basic

/-!
# Spiders

A spider says where a crawl starts, how far it goes, and what a fetched page leads
to. Reading a page may keep records and count them.
-/
namespace SiteSpiders

structure Config where
  maxDepth : Nat := 8
  maxConcurrency : Nat := 16
  /-- Whether an address may be fetched more than once. -/
  revisit : Bool := false
  headers : List (String × String) := []
  retry : Retry.Policy := {}
  /-- Error statuses whose pages are read all the same. -/
  allowedErrors : List Nat := []

namespace Config

/-- Sets how many pages are fetched at a time, at least one. -/
def withConcurrency (c : Config) (n : Nat) : Config := { c with maxConcurrency := max n 1 }

/-- Whether a page of a status is read. -/
def accepts (c : Config) (status : Nat) : Bool :=
  status < 400 || c.allowedErrors.contains status

/-- How many pages are fetched at a time. -/
def slots (c : Config) : Nat := max c.maxConcurrency 1

end Config

inductive Outcome where
  /-- The page leads to further pages. -/
  | proceed (requests : List Request)
  /-- The page leads nowhere. -/
  | skip
  /-- The crawl is to stop. -/
  | stop
  | failed (fault : Fault)
  | crashed (crash : Crash)

/-- What a spider works with besides pages: statistics and a store. -/
structure Desk (σ : Type) where
  stats : Stats := .empty
  store : σ

def Desk.note (d : Desk σ) (f : Stats → Stats) : Desk σ := { d with stats := f d.stats }

/-- What a spider counts while it reads a page. -/
inductive Count where
  | item
  | duplicate
  | storageError
  deriving DecidableEq, Repr

def Count.add : Count → Stats → Stats
  | .item, s => s.countItem
  | .duplicate, s => s.countDuplicate
  | .storageError, s => s.countStorageError

/-- The reading of a page, cut into its single accesses to what tasks share, so that many
readings can run side by side. -/
inductive Reading (σ : Type) where
  | done (outcome : Outcome)
  /-- Changes the desk, and goes on by what it found there. -/
  | act (effect : Desk σ → Desk σ) (next : Desk σ → Reading σ)
  | count (what : Count) (rest : Reading σ)

namespace Reading

variable {σ : Type}

/-- Calls the store, and goes on by its answer. -/
def ask (call : σ → α × σ) (next : α → Reading σ) : Reading σ :=
  .act (fun d => { d with store := (call d.store).2 }) fun d => next (call d.store).1

/-- A reading that nothing else comes between. -/
def run : Reading σ → Desk σ → Outcome × Desk σ
  | .done outcome, d => (outcome, d)
  | .act effect next, d => (next d).run (effect d)
  | .count what rest, d => rest.run (d.note what.add)

end Reading

structure Spider (σ : Type) where
  name : String
  start : List Url
  /-- The requests a crawl starts with. -/
  startRequests : List Request := start.map Request.start
  config : Config := {}
  /-- Where the crawl stays, `none` if it may go anywhere. -/
  domains : Option (List String) := none
  onOpen : Desk σ → Except Fault Unit × Desk σ := fun d => (.ok (), d)
  onClose : Desk σ → Except Fault Unit × Desk σ := fun d => (.ok (), d)
  read : Response → Reading σ

def Spider.parse (s : Spider σ) (r : Response) (d : Desk σ) : Outcome × Desk σ := (s.read r).run d

/-- Whether a host is a domain or lies below it. -/
def hostInDomain (host domain : List Char) : Bool :=
  host == domain ||
    (domain.reverse.isPrefixOf host.reverse &&
      (host.reverse.drop domain.length).head? == some '.')

/-- Whether an address has a host in one of some domains. -/
def domainAllowed (url : Url) (domains : List String) : Bool :=
  match url.hostText? with
  | none => false
  | some host => domains.any fun d => hostInDomain host.toList d.toList

/-- A host without the `www.` labels in front. -/
def withoutWww (host : List Char) : List Char :=
  match host with
  | 'w' :: 'w' :: 'w' :: '.' :: rest => withoutWww rest
  | _ => host

/-- The domain of a start address, as the only one allowed; `none` if it has no host. -/
def domainsOf (start : Url) : Option (List String) :=
  start.hostText?.map fun host => [String.ofList (withoutWww host.toList)]

end SiteSpiders

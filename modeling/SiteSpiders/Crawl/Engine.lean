import SiteSpiders.Crawl.Fetch

/-!
# The crawl engine

Requests that are offered wait in a queue, unless they lie too deep, outside the
allowed domains, or at an address seen before. As many as there are slots are in
flight at a time. A task in flight is advanced step by step, and once it has ended
it is settled: what it leads to is offered, and free slots are filled.

The engine fixes no order in which tasks are advanced and settled. Any sequence of
`advance` and `settle` is a crawl.
-/
namespace SiteSpiders

/-- The queue of requests, and the addresses that were ever in it, latest first. -/
structure Frontier where
  visited : List String := []
  pending : List Request := []

namespace Frontier

/-- Whether a request may enter the queue. -/
def admits (f : Frontier) (config : Config) (domains : Option (List String)) (r : Request) :
    Bool :=
  r.depth < config.maxDepth && (domains.all fun ds => domainAllowed r.url ds) &&
    (config.revisit || !f.visited.contains r.url.text)

/-- Puts a request into the queue. -/
def push (f : Frontier) (r : Request) : Frontier where
  visited := if f.visited.contains r.url.text then f.visited else r.url.text :: f.visited
  pending := f.pending ++ [r]

def offer (config : Config) (domains : Option (List String)) (f : Frontier) (r : Request) :
    Frontier :=
  if f.admits config domains r then f.push r else f

/-- Offers requests one after the other. -/
def offerAll (f : Frontier) (config : Config) (domains : Option (List String))
    (requests : List Request) : Frontier :=
  requests.foldl (offer config domains) f

end Frontier

inductive TaskPhase (σ : Type) where
  | fetching (phase : FetchPhase)
  | reading (rest : Reading σ)
  | ended (outcome : Outcome)

def TaskPhase.isEnded : TaskPhase σ → Bool
  | .ended _ => true
  | _ => false

structure Task (σ : Type) where
  ticket : Nat
  request : Request
  phase : TaskPhase σ := .fetching .asking

structure Crawl (σ : Type) where
  world : World σ
  frontier : Frontier := {}
  /-- The tasks in flight, in the order in which they were started. -/
  tasks : List (Task σ) := []
  /-- The requests ever started, latest first. -/
  dispatched : List Request := []

namespace Crawl

variable {σ : Type}

def start (c : Crawl σ) (r : Request) (rest : List Request) : Crawl σ :=
  { c with
    frontier := { c.frontier with pending := rest }
    tasks := c.tasks ++ [{ ticket := c.dispatched.length, request := r }]
    dispatched := r :: c.dispatched }

/-- Starts up to so many tasks. -/
def startUpTo : Nat → Crawl σ → Crawl σ
  | 0, c => c
  | n + 1, c =>
    match c.frontier.pending with
    | [] => c
    | r :: rest => startUpTo n (c.start r rest)

def fill (c : Crawl σ) (slots : Nat) : Crawl σ := startUpTo (slots - c.tasks.length) c

def offer (c : Crawl σ) (spider : Spider σ) (requests : List Request) : Crawl σ :=
  { c with frontier := c.frontier.offerAll spider.config spider.domains requests }

/-- The beginning of a crawl that knows some addresses. -/
def begin_ (spider : Spider σ) (visited : List String) (world : World σ) : Crawl σ :=
  (({ world, frontier := { visited } } : Crawl σ).offer spider spider.startRequests).fill
    spider.config.slots

/-- What a fetch that has ended makes of its task. Pages of other statuses are passed over. -/
def afterFetch (spider : Spider σ) : FetchEnd → TaskPhase σ
  | .failed fault => .ended (.failed fault)
  | .crashed crash => .ended (.crashed crash)
  | .response r => if spider.config.accepts r.status then .reading (spider.read r) else .ended .skip

def readStep : Reading σ → World σ → TaskPhase σ × World σ
  | .done outcome, w => (.ended outcome, w)
  | .act effect next, w => (.reading (next w.desk), { w with desk := effect w.desk })
  | .count what rest, w => (.reading rest, w.note what.add)

/-- A step of a task for a request, and how long it pauses then. -/
def taskStep (spider : Spider σ) (request : Request) (w : World σ) :
    TaskPhase σ → TaskPhase σ × Retry.Duration × World σ
  | .fetching phase =>
    match w.fetchStep spider.config.retry.categories request phase with
    | (.pause phase time, w) => (.fetching phase, time, w)
    | (.over result, w) => (afterFetch spider result, .zero, w)
  | .reading rest =>
    let (phase, w) := readStep rest w
    (phase, .zero, w)
  | .ended outcome => (.ended outcome, .zero, w)

def task? (c : Crawl σ) (ticket : Nat) : Option (Task σ) :=
  c.tasks.find? fun t => t.ticket == ticket

/-- Puts the task with a ticket into a phase. -/
def setPhase (c : Crawl σ) (ticket : Nat) (phase : TaskPhase σ) : Crawl σ :=
  { c with tasks := c.tasks.map fun t => if t.ticket = ticket then { t with phase } else t }

/-- Advances a task by a step, and says how long it pauses if it has not ended. -/
def advance (c : Crawl σ) (spider : Spider σ) (ticket : Nat) :
    Option Retry.Duration × Crawl σ :=
  match c.task? ticket with
  | none => (none, c)
  | some t =>
    let (phase, pause, world) := taskStep spider t.request c.world t.phase
    (if phase.isEnded then none else some pause, { c with world }.setPhase ticket phase)

/-- What an outcome adds to the statistics. -/
def countOutcome : Outcome → Stats → Stats
  | .failed (.storage _), s => s.countStorageError
  | .failed (.parsing _), s | .failed (.missingContext _), s => s.countParseError
  | _, s => s

/-- The requests an outcome leads to; `none` if the crawl is to stop. -/
def followUps? : Outcome → Option (List Request)
  | .proceed requests => some requests
  | .stop => none
  | _ => some []

/-- Takes a task out of flight. -/
def remove (c : Crawl σ) (ticket : Nat) : Crawl σ :=
  { c with tasks := c.tasks.filter fun t => t.ticket != ticket }

/-- Settles an outcome: counts it, offers what it leads to and fills the free slots. `none` if
the crawl is to stop. -/
def settleOutcome (c : Crawl σ) (spider : Spider σ) (outcome : Outcome) : Option (Crawl σ) :=
  (followUps? outcome).map fun requests =>
    (({ c with world := c.world.note (countOutcome outcome) } : Crawl σ).offer spider
      requests).fill spider.config.slots

/-- Settles a task that has ended. `none` if the crawl is to stop; a task that has not ended
stays. -/
def settle (c : Crawl σ) (spider : Spider σ) (ticket : Nat) : Option (Crawl σ) :=
  match c.task? ticket with
  | some { phase := .ended outcome, .. } => (c.remove ticket).settleOutcome spider outcome
  | _ => some c

end Crawl

end SiteSpiders

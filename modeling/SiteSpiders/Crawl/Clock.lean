import SiteSpiders.Crawl.Engine

/-!
# Crawling by a virtual clock

One way to order the steps of a crawl. Tasks that can run are advanced in turn until
each pauses or ends. Then those that ended are settled in the order in which they
ended. When nothing can run, the clock moves on to the next task that wakes; tasks
that wake together run in the order in which they fell asleep.
-/
namespace SiteSpiders

open Retry

/-- A crawl with its clock. Tasks are named by their tickets. -/
structure TimedCrawl (σ : Type) where
  crawl : Crawl σ
  now : Duration := .zero
  runnable : List Nat := []
  /-- Tasks asleep until a time, in the order in which they fell asleep. -/
  sleeping : List (Duration × Nat) := []
  /-- Tasks that ended and wait for the running ones. -/
  ended : List Nat := []
  /-- Tasks that are being settled. -/
  settling : List Nat := []

/-- How a step of a timed crawl leaves it. -/
inductive Progress (α : Type) where
  | more (state : α)
  | over (state : α)

namespace TimedCrawl

variable {σ : Type}

/-- The tickets of tasks started since a crawl had started so many. -/
def startedSince (n : Nat) (c : Crawl σ) : List Nat :=
  (c.tasks.map (·.ticket)).filter fun t => n ≤ t

/-- A crawl at its beginning, all of its tasks able to run. -/
def ofCrawl (crawl : Crawl σ) : TimedCrawl σ := { crawl, runnable := startedSince 0 crawl }

/-- Runs the first of the runnable tasks. -/
def runTask (t : TimedCrawl σ) (spider : Spider σ) (ticket : Nat) (rest : List Nat) :
    TimedCrawl σ :=
  match t.crawl.advance spider ticket with
  | (none, crawl) => { t with crawl, runnable := rest, ended := t.ended ++ [ticket] }
  | (some time, crawl) =>
    if time = .zero then { t with crawl, runnable := ticket :: rest }
    else { t with crawl, runnable := rest, sleeping := t.sleeping ++ [(t.now.plus time, ticket)] }

/-- The time at which the next task wakes. -/
def nextWake : List (Duration × Nat) → Option Duration
  | [] => none
  | (time, _) :: rest =>
    match nextWake rest with
    | none => some time
    | some other => some (time.shorter other)

/-- A step of a timed crawl. -/
def step (t : TimedCrawl σ) (spider : Spider σ) : Progress (TimedCrawl σ) :=
  match t.settling with
  | ticket :: rest =>
    match t.crawl.settle spider ticket with
    | none => .over t
    | some crawl => .more { t with
        crawl, settling := rest
        runnable := t.runnable ++ startedSince t.crawl.dispatched.length crawl }
  | [] =>
    match t.runnable with
    | ticket :: rest => .more (t.runTask spider ticket rest)
    | [] =>
      if t.ended.isEmpty then
        match nextWake t.sleeping with
        | none => .over t
        | some time => .more { t with
            now := time
            runnable := (t.sleeping.filter fun s => s.1 = time).map (·.2)
            sleeping := t.sleeping.filter fun s => s.1 ≠ time }
      else .more { t with settling := t.ended, ended := [] }

/-- Runs a timed crawl for so many steps at most. -/
def run (spider : Spider σ) : Nat → TimedCrawl σ → TimedCrawl σ
  | 0, t => t
  | fuel + 1, t =>
    match t.step spider with
    | .more t => run spider fuel t
    | .over t => t

end TimedCrawl

/-- What lasts from crawl to crawl: the addresses seen and the world. -/
structure Crawler (σ : Type) where
  visited : List String := []
  world : World σ

structure Report where
  result : Except Fault Unit
  /-- The addresses fetched, in order. -/
  fetched : List Url := []
  elapsed : Retry.Duration := .zero

/-- Runs a spider by the virtual clock. Retry counters start anew. -/
def Crawler.run (c : Crawler σ) (spider : Spider σ) (fuel : Nat) : Report × Crawler σ :=
  match spider.onOpen c.world.desk with
  | (.error fault, desk) => ({ result := .error fault }, { c with world := { c.world with desk } })
  | (.ok (), desk) =>
    let world := { c.world with desk, counters := {} }
    let crawl := Crawl.begin_ spider c.visited world
    let t := TimedCrawl.run spider fuel (.ofCrawl crawl)
    let w := t.crawl.world
    let (_, desk) := spider.onClose w.desk
    let fetched := (w.fetched.take (w.fetched.length - c.world.fetched.length)).reverse
    ({ result := .ok (), fetched, elapsed := t.now },
      { visited := t.crawl.frontier.visited
        world := { w with desk := desk.note fun s => s.finish } })

end SiteSpiders

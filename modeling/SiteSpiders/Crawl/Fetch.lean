import SiteSpiders.Crawl.Spider
import SiteSpiders.Site.Basic
import SiteSpiders.Text.Utf8

/-!
# Fetching a page

A page is fetched by exchanges with its site. After each exchange the retry policy
is asked whether to wait and try again. A fetch is cut into the steps between its
pauses, so that many fetches can run side by side.
-/
namespace SiteSpiders

open Retry

/-- All that the steps of a crawl change besides its own lists of pages. -/
structure World (σ : Type) where
  site : Site
  /-- The addresses asked for, latest first. -/
  asked : List Url := []
  /-- The addresses that answered, latest first. -/
  fetched : List Url := []
  counters : Counters := {}
  desk : Desk σ

inductive FetchPhase where
  /-- About to ask the site. -/
  | asking
  /-- The answer is on its way. -/
  | arriving (answer : Arrival)

inductive FetchEnd where
  | response (r : Response)
  | failed (fault : Fault)
  | crashed (crash : Crash)

/-- What a step of a fetch leads to. -/
inductive FetchStep where
  | pause (phase : FetchPhase) (time : Duration)
  | over (result : FetchEnd)

namespace World

variable {σ : Type}

def note (w : World σ) (f : Stats → Stats) : World σ := { w with desk := w.desk.note f }

def exchange (w : World σ) (url : Url) : Except Fault Arrival × World σ :=
  let w' := { w with asked := url :: w.asked }
  match w.site.reply w.asked url with
  | .error fault => (.error fault, w')
  | .ok answer => (.ok answer, { w' with fetched := url :: w.fetched })

/-- Counts a response that is kept. The time it took is not measured. -/
def countResponse (w : World σ) (answer : Arrival) : Except Crash Unit × World σ :=
  let (result, stats) :=
    w.desk.stats.recordRequest Stats.doubles answer.status (Text.utf8Length answer.body) 0
  (result, w.note fun _ => stats)

/-- What follows an answer: another attempt, or the end of the fetch. The categories of the
policy are walked in the order given. -/
def judge (w : World σ) (walk : List (Category × CategoryConfig)) (request : Request)
    (answer : Arrival) : FetchStep × World σ :=
  let (decision, counters) := w.counters.consider walk request.url answer.status answer.body
  let w := { w with counters }
  match decision with
  | some (_, .error crash) => (.over (.crashed crash), w)
  | some (category, .ok delay) =>
    (.pause .asking delay, w.note fun s => s.recordRetry category.label)
  | none =>
    let usage := w.counters.usage request.url
    match w.countResponse answer with
    | (.error crash, w) => (.over (.crashed crash), w)
    | (.ok (), w) =>
      let response : Response :=
        { url := answer.url, status := answer.status, body := answer.body,
          retryCount := usage.total, retryHistory := usage.counts, request }
      (.over (.response response), w)

def fetchStep (w : World σ) (walk : List (Category × CategoryConfig)) (request : Request) :
    FetchPhase → FetchStep × World σ
  | .asking =>
    match w.exchange request.url with
    | (.error fault, w) => (.over (.failed fault), w.note fun s => s.recordFailure)
    | (.ok answer, w) => (.pause (.arriving answer) (answer.delay.getD .zero), w)
  | .arriving answer => w.judge walk request answer

/-- A fetch by itself, from a phase on: how it ends and how long it paused. `none` if it does not
end within so many steps. -/
def fetchFrom (walk : List (Category × CategoryConfig)) (request : Request) :
    Nat → FetchPhase → Duration → World σ → Option (FetchEnd × Duration) × World σ
  | 0, _, _, w => (none, w)
  | fuel + 1, phase, paused, w =>
    match w.fetchStep walk request phase with
    | (.over result, w) => (some (result, paused), w)
    | (.pause phase time, w) => fetchFrom walk request fuel phase (paused.plus time) w

/-- The attempts that a policy allows for one address altogether. -/
def attemptBudget (walk : List (Category × CategoryConfig)) : Nat :=
  walk.foldl (fun n c => n + c.2.maxRetries) 0

def fetch (w : World σ) (walk : List (Category × CategoryConfig)) (request : Request) :
    Option (FetchEnd × Duration) × World σ :=
  fetchFrom walk request (2 * attemptBudget walk + 3) .asking .zero w

end World

end SiteSpiders

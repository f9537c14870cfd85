import SiteSpiders.Proofs.Crawl.Run

/-!
# The virtual clock makes runs

Crawling by the virtual clock is one way to order the steps of a run: whatever it comes
to, a run comes to.
-/
namespace SiteSpiders

variable {σ : Type} {spider : Spider σ} {visited : List String} {world : World σ} {c : Crawl σ}
  {j : Journal}

namespace Crawl

lemma ticket_of_task? {k : Nat} {t : Task σ} (at_ : c.task? k = some t) : t.ticket = k := by
  simpa using List.find?_some at_

theorem advance_of_ended {t : Task σ} (nodup : (c.tasks.map (·.ticket)).Nodup)
    (at_ : c.task? t.ticket = some t) (ended : t.phase.isEnded = true) :
    (c.advance spider t.ticket).2 = c := by
  obtain ⟨before, after, heq, hset, _⟩ := split_at_ticket nodup at_
  obtain ⟨ticket, request, phase⟩ := t
  cases phase with
  | fetching _ => simp [TaskPhase.isEnded] at ended
  | reading _ => simp [TaskPhase.isEnded] at ended
  | ended outcome =>
    rw [advance_eq at_]
    have htasks := (hset (.ended outcome)).trans heq.symm
    simp only [setPhase] at htasks
    simp only [taskStep, setPhase, htasks]

/-- A journal after a ticket was advanced. -/
def advancedNote (c : Crawl σ) (spider : Spider σ) (ticket : Nat) (j : Journal) : Journal :=
  match c.task? ticket with
  | none => j
  | some t => if t.phase.isEnded then j else j.advanced (delivery? spider c.world t)

/-- A journal after a ticket was settled. -/
def settledNote (c : Crawl σ) (spider : Spider σ) (ticket : Nat) (j : Journal) : Journal :=
  match c.task? ticket with
  | some { request, phase := .ended outcome, .. } => (j.left request outcome).offered
      (c.frontier.offersOf spider.config spider.domains ((followUps? outcome).getD []))
  | _ => j

theorem Run.advance_any (h : Run spider visited world c j) (ticket : Nat) :
    Run spider visited world (c.advance spider ticket).2 (c.advancedNote spider ticket j) := by
  cases at_ : c.task? ticket with
  | none => simpa [Crawl.advance, advancedNote, at_] using h
  | some t =>
    obtain rfl := ticket_of_task? at_
    cases busy : t.phase.isEnded with
    | false => simpa [advancedNote, at_, busy] using h.advance at_ busy
    | true =>
      rw [advance_of_ended h.moves.ticketed.1 at_ busy]
      simpa [advancedNote, at_, busy] using h

/-- A run may settle any ticket, unless that stops it. -/
theorem Run.settle_any {c' : Crawl σ} {ticket : Nat} (h : Run spider visited world c j)
    (goes : c.settle spider ticket = some c') :
    Run spider visited world c' (c.settledNote spider ticket j) := by
  cases at_ : c.task? ticket with
  | none =>
    obtain rfl : c = c' := by simpa [Crawl.settle, at_] using goes
    simpa [settledNote, at_] using h
  | some t =>
    obtain rfl := ticket_of_task? at_
    obtain ⟨ticket, request, phase⟩ := t
    cases phase with
    | ended outcome => simpa [settledNote, at_] using h.settle at_ rfl goes
    | fetching phase =>
      obtain rfl : c = c' := by simpa [Crawl.settle, at_] using goes
      simpa [settledNote, at_] using h
    | reading rest =>
      obtain rfl : c = c' := by simpa [Crawl.settle, at_] using goes
      simpa [settledNote, at_] using h

end Crawl

namespace TimedCrawl

variable {t t' : TimedCrawl σ}

@[simp] theorem runTask_crawl (t : TimedCrawl σ) (spider : Spider σ) (ticket : Nat)
    (rest : List Nat) :
    (t.runTask spider ticket rest).crawl = (t.crawl.advance spider ticket).2 := by
  unfold runTask
  split
  · simp [*]
  · split <;> simp [*]

/-- The journal after a step of the clock. -/
def stepJournal (t : TimedCrawl σ) (spider : Spider σ) (j : Journal) : Journal :=
  match t.settling, t.runnable with
  | ticket :: _, _ => t.crawl.settledNote spider ticket j
  | [], ticket :: _ => t.crawl.advancedNote spider ticket j
  | [], [] => j

/-- The journal after so many steps of the clock at most. -/
def journal (spider : Spider σ) : Nat → TimedCrawl σ → Journal → Journal
  | 0, _, j => j
  | fuel + 1, t, j =>
    match t.step spider with
    | .more t' => journal spider fuel t' (t.stepJournal spider j)
    | .over _ => j

/-- A step of the clock is at most a step of the run. -/
theorem step_run (h : Crawl.Run spider visited world t.crawl j) (step : t.step spider = .more t') :
    Crawl.Run spider visited world t'.crawl (t.stepJournal spider j) := by
  unfold TimedCrawl.step at step
  split at step
  · rename_i hsettling
    split at step
    · cases step
    · rename_i goes
      cases step
      simpa [stepJournal, hsettling] using h.settle_any goes
  · rename_i hsettling
    split at step
    · rename_i hrunnable
      cases step
      simpa [stepJournal, hsettling, hrunnable] using h.advance_any _
    · rename_i hrunnable
      have still : t.stepJournal spider j = j := by simp [stepJournal, hsettling, hrunnable]
      rw [still]
      split at step
      · split at step
        · cases step
        · cases step
          exact h
      · cases step
        exact h

theorem step_over (step : t.step spider = .over t') : t' = t := by
  unfold TimedCrawl.step at step
  repeat' split at step
  all_goals cases step
  all_goals rfl

theorem run_run (fuel : Nat) (h : Crawl.Run spider visited world t.crawl j) :
    Crawl.Run spider visited world (TimedCrawl.run spider fuel t).crawl
      (journal spider fuel t j) := by
  induction fuel generalizing t j with
  | zero => exact h
  | succ fuel ih =>
    rcases step : t.step spider with t' | t'
    · simpa only [TimedCrawl.run, journal, step] using ih (step_run h step)
    · obtain rfl := step_over step
      simpa only [TimedCrawl.run, journal, step] using h

end TimedCrawl

/-- A spider by the clock on a crawler, once it has been opened. -/
def Crawler.timed (k : Crawler σ) (spider : Spider σ) (desk : Desk σ) : TimedCrawl σ :=
  .ofCrawl (Crawl.begin_ spider k.visited { k.world with desk, counters := {} })

/-- The journal that a spider makes by the clock on a crawler. -/
def Crawler.journal (k : Crawler σ) (spider : Spider σ) (desk : Desk σ) (fuel : Nat) : Journal :=
  TimedCrawl.journal spider fuel (k.timed spider desk) (Journal.offered {}
    (({ visited := k.visited } : Frontier).offersOf spider.config spider.domains
      spider.startRequests))

/-- A spider by the clock makes a run. -/
theorem Crawler.running_timed (k : Crawler σ) (spider : Spider σ) (fuel : Nat) {desk : Desk σ}
    (opened : spider.onOpen k.world.desk = (.ok (), desk)) :
    k.Running spider (TimedCrawl.run spider fuel (k.timed spider desk)).crawl
      (k.journal spider desk fuel) :=
  ⟨desk, {}, opened, TimedCrawl.run_run fuel .start⟩

/-- A crawler that runs a spider by the clock makes a run of the spider. -/
theorem Crawler.running_of_run (k : Crawler σ) (spider : Spider σ) (fuel : Nat) {desk : Desk σ}
    (opened : spider.onOpen k.world.desk = (.ok (), desk)) :
    let t := TimedCrawl.run spider fuel
      (.ofCrawl (Crawl.begin_ spider k.visited { k.world with desk, counters := {} }))
    (∃ j, k.Running spider t.crawl j) ∧ (k.run spider fuel).1.result = .ok () ∧
      (k.run spider fuel).2.visited = t.crawl.frontier.visited := by
  intro t
  refine ⟨⟨_, k.running_timed spider fuel opened⟩, ?_, ?_⟩
  · simp [Crawler.run, opened]
  · simp [Crawler.run, opened, t]

end SiteSpiders

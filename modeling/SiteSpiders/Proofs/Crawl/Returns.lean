import SiteSpiders.Proofs.Crawl.Progress

/-!
# How a run returns

A spider that cannot be opened is not run. A run that was opened returns when no task is
left or one asks to stop. It is then closed, and whatever closing comes to, the run
returns well with its end noted.
-/
namespace SiteSpiders

variable {σ : Type} {spider : Spider σ} {k k' : Crawler σ} {c : Crawl σ} {j : Journal}
  {desk : Desk σ}

/-- What a crawl leaves once it is closed. -/
def Crawl.closed (c : Crawl σ) (spider : Spider σ) : Crawler σ where
  visited := c.frontier.visited
  world := { c.world with desk := (spider.onClose c.world.desk).2.note fun s => s.finish }

namespace Crawler

/-- How a spider on a crawler returns and what crawler it leaves, in whatever order its tasks go on
and are settled. -/
inductive Returns (k : Crawler σ) (spider : Spider σ) : Except Fault Unit → Crawler σ → Prop
  | unopened {fault : Fault} {desk : Desk σ}
      (shut : spider.onOpen k.world.desk = (.error fault, desk)) :
      Returns k spider (.error fault) { k with world := { k.world with desk } }
  | finished {c : Crawl σ} {j : Journal} (running : k.Running spider c j) (ends : c.Over) :
      Returns k spider (.ok ()) (c.closed spider)

theorem Returns.ok {result : Except Fault Unit} (h : k.Returns spider result k')
    (opened : spider.onOpen k.world.desk = (.ok (), desk)) :
    result = .ok () ∧ k'.world.desk.stats.finished = true := by
  cases h with
  | unopened shut =>
    rw [opened] at shut
    cases shut
  | finished _ _ => exact ⟨rfl, rfl⟩

/-- So it does by the clock, and what it leaves is one way to return if the clock came to the
end. -/
theorem run_opened (opened : spider.onOpen k.world.desk = (.ok (), desk)) (fuel : Nat) :
    (k.run spider fuel).1.result = .ok () ∧
      (k.run spider fuel).2.world.desk.stats.finished = true ∧
      ((TimedCrawl.run spider fuel (k.timed spider desk)).crawl.Over →
        k.Returns spider (k.run spider fuel).1.result (k.run spider fuel).2) := by
  have hrun : (k.run spider fuel).2 =
      (TimedCrawl.run spider fuel (k.timed spider desk)).crawl.closed spider := by
    simp only [Crawler.run, opened]
    rfl
  have hresult : (k.run spider fuel).1.result = .ok () := by simp only [Crawler.run, opened]
  rw [hrun, hresult]
  exact ⟨rfl, rfl, .finished (k.running_timed spider fuel opened)⟩

/-- A run that is not stopped can make another move, or returns with no task left and nothing
waiting. -/
theorem Running.returns_or_next (running : k.Running spider c j)
    (unstopped : ∀ t ∈ c.tasks, t.phase ≠ .ended .stop) :
    (c.tasks = [] ∧ c.frontier.pending = [] ∧ k.Returns spider (.ok ()) (c.closed spider)) ∨
      ∃ c', Crawl.Next spider c c' := by
  obtain ⟨desk, counters, opened, run⟩ := id running
  refine run.over_or_next.imp_left fun ends => ?_
  have quiet := ends.resolve_right fun ⟨t, ht, stops⟩ => unstopped t ht stops
  exact ⟨quiet.1, quiet.2, .finished running ends⟩

theorem Running.exists_return (running : k.Running spider c j) (halts : c.Halts spider) :
    ∃ k', k.Returns spider (.ok ()) k' := by
  obtain ⟨desk, counters, opened, run⟩ := running
  induction halts generalizing j with
  | intro c _ ih =>
    rcases run.over_or_next with ends | ⟨c', next⟩
    · exact ⟨_, .finished ⟨desk, counters, opened, run⟩ ends⟩
    · obtain ⟨j', run'⟩ := run.next next
      exact ih c' next run'

end Crawler

end SiteSpiders

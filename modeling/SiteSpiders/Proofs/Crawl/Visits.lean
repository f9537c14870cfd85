import SiteSpiders.Proofs.Crawl.Dispatch

/-!
# Addresses over the life of a crawler

A crawler keeps the addresses it knows from run to run, and a run may be left at any
point, with requests still waiting. Without revisits every address enters the queue at
most once over the whole life, so none is dispatched twice.
-/
namespace SiteSpiders

variable {σ : Type} {spider : Spider σ} {visited : List String} {world : World σ} {c : Crawl σ}
  {hand : List Request} {j : Journal}

namespace Crawl.Moves

/-- Without revisits an address enters the queue once, and only if it was not known at first. -/
theorem admitted_nodup (once : spider.config.revisit = false)
    (h : Moves spider visited world c hand j) :
    (j.admitted.map (·.url.text)).Nodup ∧ ∀ u ∈ j.admitted.map (·.url.text), u ∉ visited := by
  induction h with
  | begin_ => exact ⟨List.nodup_nil, by simp [Journal.admitted]⟩
  | @offer c r rest j moves ih =>
    rw [Journal.admitted_offered]
    cases hadm : c.frontier.admits spider.config spider.domains r with
    | false => simpa [hadm] using ih
    | true =>
      have fresh : r.url.text ∉ c.frontier.visited := by
        have h := (Frontier.offerOf_admitted_iff c.frontier r spider).mp hadm
        exact h.2.2 once
      rw [moves.mem_visited_iff, not_or] at fresh
      simp only [Frontier.offerOf_admitted, hadm, if_true, Frontier.offerOf_request,
        List.map_append, List.map_cons, List.map_nil]
      refine ⟨?_, ?_⟩
      · refine List.nodup_append.mpr ⟨ih.1, List.nodup_singleton _, ?_⟩
        intro a ha b hb he
        rw [List.mem_singleton] at hb
        exact fresh.2 (hb ▸ he ▸ ha)
      · intro u hu
        rw [List.mem_append, List.mem_singleton] at hu
        rcases hu with hu | rfl
        · exact ih.2 u hu
        · exact fresh.1
  | start _ _ _ ih => exact ih
  | advance _ _ _ ih => exact ih
  | settle _ _ _ _ ih => exact ih

theorem inFlight_sublist (h : Moves spider visited world c hand j) :
    (c.tasks.map (·.request) ++ c.frontier.pending).Sublist j.admitted := by
  rw [← h.queue_eq]
  exact h.tasks_sublist.append (List.Sublist.refl _)

end Crawl.Moves

/-- The life of a crawler through runs without revisits, one after the other: the addresses it
knows, the requests it ever dispatched and those that ever entered a queue. A run may be left
at any point, and between runs only the known addresses last. -/
inductive Crawler.Life : List String → List Request → List Request → Prop
  | new : Life [] [] []
  | run {σ : Type} {k : Crawler σ} {spider : Spider σ} {c : Crawl σ} {j : Journal}
      {dispatched pushed : List Request} (life : Life k.visited dispatched pushed)
      (once : spider.config.revisit = false) (running : k.Running spider c j) :
      Life c.frontier.visited (dispatched ++ c.dispatched.reverse) (pushed ++ j.admitted)

/-- A crawler knows the addresses that ever entered a queue, and no address was dispatched
twice. -/
theorem Crawler.Life.known {visited : List String} {dispatched pushed : List Request}
    (life : Life visited dispatched pushed) :
    (∀ u, u ∈ visited ↔ u ∈ pushed.map (·.url.text)) ∧
      (dispatched.map (·.url.text)).Nodup ∧ ∀ u ∈ dispatched.map (·.url.text), u ∈ visited := by
  induction life with
  | new => simp
  | @run σ k spider c j dispatched pushed _ once running ih =>
    obtain ⟨hknown, hnodup, hsub⟩ := ih
    obtain ⟨desk, counters, _, run⟩ := running
    obtain ⟨hadm, hnew⟩ := run.moves.admitted_nodup once
    have hvisited := run.moves.mem_visited_iff
    have hentered : (c.dispatched.reverse).Sublist j.admitted := by
      rw [← run.moves.queue_eq]
      exact List.sublist_append_left _ _
    have htexts := hentered.map (·.url.text)
    refine ⟨?_, ?_, ?_⟩
    · intro u
      rw [hvisited, List.map_append, List.mem_append, hknown]
    · rw [List.map_append]
      refine List.nodup_append.mpr ⟨hnodup, hadm.sublist htexts, ?_⟩
      rintro a ha b hb rfl
      exact hnew a (htexts.subset hb) (hsub a ha)
    · intro u hu
      rw [List.map_append, List.mem_append] at hu
      rw [hvisited]
      exact hu.imp (hsub u) fun h => htexts.subset h

/-- Over the whole life of a crawler without revisits no address is dispatched twice; at every
step the addresses that wait or are in flight are distinct and known, and the known addresses are
exactly those that ever entered a queue. -/
theorem life_dispatches_once {k : Crawler σ} {dispatched pushed : List Request}
    (life : Crawler.Life k.visited dispatched pushed) (once : spider.config.revisit = false)
    (running : k.Running spider c j) :
    ((dispatched ++ c.dispatched.reverse).map (·.url.text)).Nodup ∧
      ((c.frontier.pending ++ c.tasks.map (·.request)).map (·.url.text)).Nodup ∧
      (∀ r ∈ c.frontier.pending ++ c.tasks.map (·.request), r.url.text ∈ c.frontier.visited) ∧
      (∀ u, u ∈ c.frontier.visited ↔ u ∈ (pushed ++ j.admitted).map (·.url.text)) := by
  obtain ⟨hknown, hnodup, _⟩ := (Crawler.Life.run life once running).known
  obtain ⟨desk, counters, _, run⟩ := running
  have hsub := run.moves.inFlight_sublist
  have hswap : (c.frontier.pending ++ c.tasks.map (·.request)).Perm
      (c.tasks.map (·.request) ++ c.frontier.pending) := List.perm_append_comm
  refine ⟨hnodup, ?_, ?_, hknown⟩
  · rw [(hswap.map _).nodup_iff]
    exact (run.moves.admitted_nodup once).1.sublist (hsub.map _)
  · intro r hr
    rw [run.moves.mem_visited_iff]
    exact Or.inr (List.mem_map_of_mem (hsub.subset (hswap.mem_iff.mp hr)))

/-- A run that is stopped while a page waits. -/
def stoppedSample : Crawl Unit := sampleCrawl [] ["a", "b", "a"] .stop

/-- A later run of the same crawler, asked for the page that waited and for a new one. -/
def resumedSample : Crawl Unit := sampleCrawl stoppedSample.frontier.visited ["b", "c"] .skip

/-- The page that waited when its run was stopped stays known and is not dispatched later. -/
theorem life_dispatches_once_sample :
    (stoppedSample.settle (sampleSpider ["a", "b", "a"] .stop) 0).isNone ∧
      stoppedSample.frontier.pending.map (·.url) = [samplePage "b"] ∧
      resumedSample.dispatched.map (·.url) = [samplePage "c"] ∧
      ∃ j₁ j₂,
        (sampleCrawler []).Running (sampleSpider ["a", "b", "a"] .stop) stoppedSample j₁ ∧
        (sampleCrawler stoppedSample.frontier.visited).Running (sampleSpider ["b", "c"] .skip)
          resumedSample j₂ ∧
        ((stoppedSample.dispatched.reverse ++ resumedSample.dispatched.reverse).map
          (·.url.text)).Nodup ∧
        ∀ u, u ∈ resumedSample.frontier.visited ↔
          u ∈ (j₁.admitted ++ j₂.admitted).map (·.url.text) := by
  refine ⟨by decide +kernel, by decide +kernel, by decide +kernel, ?_⟩
  obtain ⟨j₁, run₁⟩ := sampleCrawl_running [] ["a", "b", "a"] .stop
  obtain ⟨j₂, run₂⟩ := sampleCrawl_running stoppedSample.frontier.visited ["b", "c"] .skip
  have once₁ : (sampleSpider ["a", "b", "a"] .stop).config.revisit = false := rfl
  have once₂ : (sampleSpider ["b", "c"] .skip).config.revisit = false := rfl
  have once := life_dispatches_once (Crawler.Life.run .new once₁ run₁) once₂ run₂
  exact ⟨j₁, j₂, run₁, run₂, once.1, once.2.2.2⟩

end SiteSpiders

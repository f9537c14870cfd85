import Mathlib.Order.Bounds.Defs
import SiteSpiders.Proofs.Crawl.Links

/-!
# Breadth-first search

With one page at a time, tasks leave in the order in which they were dispatched, so what is
offered comes in order of depth. An address that was passed over as known was therefore
found at no greater depth before, and one that was passed over as too deep does not stay
out if a shorter way leads to it. So a crawl that follows links comes to exactly the
addresses within its depth, each by a shortest way.
-/
namespace SiteSpiders

variable {σ : Type} {spider : Spider σ} {visited : List String} {world : World σ} {c : Crawl σ}
  {hand : List Request} {j : Journal} {chart : Chart}

namespace Crawl

/-- One at a time, tasks leave in the order in which they were dispatched. -/
theorem Moves.settled_in_order (single : spider.config.slots = 1)
    (h : Moves spider visited world c hand j) :
    j.settled.map Prod.fst ++ c.tasks.map (·.request) = c.dispatched.reverse := by
  induction h with
  | begin_ => rfl
  | offer _ ih => exact ih
  | @start c r rest j _ _ free ih =>
    have hidle : c.tasks = [] := List.eq_nil_of_length_eq_zero (by omega)
    rw [hidle, List.map_nil, List.append_nil] at ih
    simp [hidle, ih]
  | advance _ at_ _ ih => simpa [at_] using ih
  | @settle c j before after t outcome requests moves at_ _ _ ih =>
    have hlength := moves.tasks_le_slots
    rw [single, at_, List.length_append, List.length_cons] at hlength
    obtain rfl : before = [] := List.eq_nil_of_length_eq_zero (by omega)
    obtain rfl : after = [] := List.eq_nil_of_length_eq_zero (by omega)
    simpa [at_] using ih

/-- One at a time, requests are offered in order of depth. -/
theorem Moves.offers_sorted (single : spider.config.slots = 1)
    (once : spider.config.revisit = false) (guides : chart.Guides spider world.site)
    (starts : ∀ r ∈ spider.startRequests, r.depth = 0)
    (h : Moves spider visited world c hand j) :
    (j.offers.map (·.request) ++ hand).Pairwise fun r q => r.depth ≤ q.depth := by
  induction h with
  | begin_ =>
    refine List.pairwise_of_forall_mem_list fun r hr q hq => ?_
    have := starts r hr
    omega
  | offer _ ih => simpa using ih
  | start _ _ _ ih => exact ih
  | advance _ _ _ ih => exact ih
  | @settle c j before after t outcome requests moves at_ ended goes ih =>
    rw [List.append_nil] at ih
    have hmem : t ∈ c.tasks := by simp [at_]
    -- the task that leaves is no less deep than those that left before
    have hlast : ∀ s ∈ j.settled, s.1.depth ≤ t.request.depth := by
      intro s hs
      have hsub : c.dispatched.reverse.Sublist (j.offers.map (·.request)) := by
        have hqueue : c.dispatched.reverse.Sublist j.admitted := by
          rw [← moves.queue_eq]
          exact List.sublist_append_left _ _
        exact hqueue.trans (List.filter_sublist.map _)
      have hsorted := ih.sublist hsub
      rw [← moves.settled_in_order single] at hsorted
      exact (List.pairwise_append.mp hsorted).2.2 _ (List.mem_map_of_mem hs) _
        (List.mem_map_of_mem hmem)
    have hread := (moves.read once).1 t hmem
    rw [ended] at hread
    obtain ⟨requests', hfollow, hdepth, _⟩ := hread.follows guides moves.fetchedFor
      (moves.admitted_within (moves.admitted_of_dispatched (moves.dispatched_of_task hmem))).1
    obtain rfl : requests' = requests := Option.some.inj (hfollow.symm.trans goes)
    refine List.pairwise_append.mpr ⟨ih, ?_, fun r hr q hq => ?_⟩
    · refine List.pairwise_of_forall_mem_list fun r hr q hq => ?_
      rw [hdepth r hr, hdepth q hq]
    · rw [hdepth q hq]
      rcases moves.offered_from once guides hr with hstart | ⟨s, hs, _, _, hdeep⟩
      · have := starts r hstart
        omega
      · have := hlast s hs
        omega

/-- One at a time, an allowed address that is offered within the depth has entered the queue by
then, at no greater depth. -/
theorem Moves.admitted_no_deeper (single : spider.config.slots = 1)
    (once : spider.config.revisit = false) (guides : chart.Guides spider world.site)
    (starts : ∀ r ∈ spider.startRequests, r.depth = 0)
    (h : Moves spider [] world c [] j) {o : Offer} (ho : o ∈ j.offers)
    (allowed : spider.Allows o.request.url) (within : o.request.depth < spider.config.maxDepth) :
    ∃ r ∈ j.admitted, r.url.text = o.request.url.text ∧ r.depth ≤ o.request.depth := by
  by_cases known : o.request.url.text ∈ o.known
  · obtain ⟨before, after, at_⟩ := List.append_of_mem ho
    obtain ⟨p, hp, heligible, htext⟩ := ((h.known_iff at_ _).mp known).resolve_left nofun
    have hsorted := h.offers_sorted single once guides starts
    rw [List.append_nil, at_, List.map_append, List.map_cons] at hsorted
    refine ⟨p.request, h.admitted_of_eligible (by simp [at_, hp]) heligible, htext, ?_⟩
    exact (List.pairwise_append.mp hsorted).2.2 _ (List.mem_map_of_mem hp) _ List.mem_cons_self
  · exact ⟨o.request, h.admitted_of_eligible ho ⟨within, allowed, fun _ => known⟩, rfl,
      Nat.le_refl _⟩

/-- One at a time, a crawl that is over has dispatched every address that can be reached within the
depth, at no greater depth than the way there. -/
theorem Run.dispatches_reached (single : spider.config.slots = 1)
    (once : spider.config.revisit = false) (guides : chart.Guides spider world.site)
    (starts : ∀ r ∈ spider.startRequests, r.depth = 0) (run : Run spider [] world c j)
    (quiet : c.tasks = []) (agrees : chart.Agrees j) {n : Nat} {u : String}
    (reached : chart.Reaches spider n u) (within : n < spider.config.maxDepth) :
    ∃ r ∈ c.dispatched, r.url.text = u ∧ r.depth ≤ n := by
  have dispatched : ∀ o ∈ j.offers, spider.Allows o.request.url →
      o.request.depth < spider.config.maxDepth →
      ∃ r ∈ c.dispatched, r.url.text = o.request.url.text ∧ r.depth ≤ o.request.depth := by
    intro o ho allowed within
    obtain ⟨r, hr, found⟩ :=
      run.moves.admitted_no_deeper single once guides starts ho allowed within
    rw [← run.moves.queue_eq, run.idle quiet, List.append_nil, List.mem_reverse] at hr
    exact ⟨r, hr, found⟩
  induction reached with
  | start hr allowed =>
    obtain ⟨o, ho, rfl⟩ := run.offers_start hr
    have hzero := starts _ hr
    obtain ⟨q, hq, htext, hdepth⟩ := dispatched o ho allowed (by omega)
    exact ⟨q, hq, htext, by omega⟩
  | link _ opens linked allowed ih =>
    obtain ⟨r, hr, rfl, hle⟩ := ih (by omega)
    obtain ⟨o, ho, rfl, hdepth⟩ := run.offers_links once guides quiet agrees hr opens linked
    obtain ⟨q, hq, htext, hdepth'⟩ := dispatched o ho allowed (by omega)
    exact ⟨q, hq, htext, by omega⟩

end Crawl

/-- A crawl that follows links one page at a time, without revisits and on a new crawler, is a
breadth-first search. It halts, is never stuck on the way, and when it is over it has dispatched
exactly the addresses that fewer links than the greatest depth lead to, through pages that can be
read and addresses that are allowed: each once, at the length of a shortest such way, and in order
of depth. On a site as charted every run comes upon the pages as the chart says, if no task breaks
off. -/
theorem sequential_crawl_breadth_first {k : Crawler σ}
    (guides : chart.Guides spider k.world.site)
    (starts : ∀ r ∈ spider.startRequests, r.depth = 0) (single : spider.config.slots = 1)
    (once : spider.config.revisit = false) (fresh : k.visited = []) :
    (∀ desk, spider.onOpen k.world.desk = (.ok (), desk) →
        ∃ c j, k.Running spider c j ∧ c.tasks = []) ∧
      ∀ c j, k.Running spider c j →
        (c.Halts spider ∧ (c.tasks ≠ [] → ∃ c', Crawl.Next spider c c')) ∧
        (chart.Fits spider k.world.site →
          (∀ s ∈ j.settled, ∀ crash, s.2 ≠ .crashed crash) → chart.Agrees j) ∧
        (c.tasks = [] → chart.Agrees j →
          (∀ u, u ∈ c.dispatched.map (·.url.text) ↔
            ∃ n < spider.config.maxDepth, chart.Reaches spider n u) ∧
          (c.dispatched.map (·.url.text)).Nodup ∧
          (∀ r ∈ c.dispatched, IsLeast {n | chart.Reaches spider n r.url.text} r.depth) ∧
          c.dispatched.reverse.Pairwise fun r q => r.depth ≤ q.depth) := by
  refine ⟨fun desk opened => k.exists_end_of_guides once guides starts opened, ?_⟩
  rintro c j ⟨desk, counters, _, run⟩
  rw [fresh] at run
  have guides : chart.Guides spider ({ k.world with counters, desk } : World σ).site := guides
  refine ⟨run.link_halts once guides starts, fun fits unbroken => ?_, fun quiet agrees => ?_⟩
  · exact run.moves.agrees once fits unbroken
  have hnodup := run.moves.dispatched_nodup once
  have hsound : ∀ r ∈ c.dispatched, r.depth < spider.config.maxDepth ∧
      chart.Reaches spider r.depth r.url.text := by
    intro r hr
    have hadm := run.moves.admitted_of_dispatched hr
    exact ⟨(run.moves.admitted_within hadm).1,
      run.moves.reaches once guides starts (fun s hs => (agrees s hs).mp) hadm⟩
  have hcomplete : ∀ {n u}, chart.Reaches spider n u → n < spider.config.maxDepth →
      ∃ r ∈ c.dispatched, r.url.text = u ∧ r.depth ≤ n :=
    fun reached => run.dispatches_reached single once guides starts quiet agrees reached
  refine ⟨fun u => ⟨?_, ?_⟩, hnodup, fun r hr => ⟨(hsound r hr).2, fun n reached => ?_⟩, ?_⟩
  · intro hu
    obtain ⟨r, hr, rfl⟩ := List.mem_map.mp hu
    exact ⟨r.depth, hsound r hr⟩
  · rintro ⟨n, within, reached⟩
    obtain ⟨r, hr, rfl, _⟩ := hcomplete reached within
    exact List.mem_map_of_mem hr
  · by_cases within : n < spider.config.maxDepth
    · obtain ⟨q, hq, htext, hle⟩ := hcomplete reached within
      rwa [List.inj_on_of_nodup_map hnodup hq hr htext] at hle
    · have := (hsound r hr).1
      omega
  · have hsorted := run.moves.offers_sorted single once guides starts
    have hqueue := run.moves.queue_eq
    rw [run.idle quiet, List.append_nil] at hqueue
    rw [List.append_nil] at hsorted
    rw [hqueue]
    exact hsorted.sublist (List.filter_sublist.map _)

/-- A crawl to the end. The page `f` lies too deep, and `h` is linked from a missing page only. -/
theorem sequential_crawl_breadth_first_sample :
    let spider := linkSpider 3 1
    (linkCrawl 3 1).tasks = [] ∧ sampleChart.Agrees (linkJournal 3 1) ∧
      (linkCrawl 3 1).dispatched.reverse.map (fun r => (r.url, r.depth)) =
        [(samplePage "a", 0), (samplePage "b", 1), (samplePage "c", 1), (samplePage "e", 2),
          (samplePage "d", 2), (samplePage "g", 2)] ∧
      (∀ u, u ∈ (linkCrawl 3 1).dispatched.map (·.url.text) ↔
        ∃ n < 3, sampleChart.Reaches spider n u) ∧
      ∀ r ∈ (linkCrawl 3 1).dispatched,
        IsLeast {n | sampleChart.Reaches spider n r.url.text} r.depth := by
  intro spider
  have quiet : (linkCrawl 3 1).tasks = [] := List.isEmpty_iff.mp (by decide +kernel)
  have agrees : sampleChart.Agrees (linkJournal 3 1) := by
    simp only [Chart.Agrees, sampleChart]
    decide +kernel
  obtain ⟨_, hruns⟩ := sequential_crawl_breadth_first (k := linkCrawler) (linkSpider_guided 3 1)
    (linkSpider_starts 3 1) rfl rfl rfl
  obtain ⟨_, _, hend⟩ := hruns _ _ (linkCrawl_running 3 1)
  obtain ⟨hexact, _, hleast, _⟩ := hend quiet agrees
  exact ⟨quiet, agrees, by decide +kernel, hexact, hleast⟩

end SiteSpiders

import Mathlib.Data.Finset.Card
import SiteSpiders.Proofs.Crawl.Links

/-!
# Crawls that saturate

When pages are fetched side by side, an address may first be found by a detour, at a depth
that depends on the order in which tasks end. It is not lost if the crawl may go as deep as
there are addresses to reach: the way by which an address was found has a page in the queue
at every depth, so it is no longer than the queue, and the queue holds different addresses.
So every order comes to the same addresses in the end.
-/
namespace SiteSpiders

variable {σ : Type} {spider : Spider σ} {visited : List String} {world : World σ} {c : Crawl σ}
  {hand : List Request} {j : Journal} {chart : Chart}

namespace Crawl

/-- Without revisits every request that enters the queue adds its address to those known. -/
theorem Moves.visited_eq (once : spider.config.revisit = false)
    (h : Moves spider visited world c hand j) :
    c.frontier.visited = (j.admitted.map (·.url.text)).reverse ++ visited := by
  induction h with
  | begin_ => rfl
  | @offer c r rest j _ ih =>
    rw [Journal.admitted_offered]
    cases hadm : c.frontier.admits spider.config spider.domains r with
    | false => simpa [Frontier.offer_of_not_admits _ _ _ _ hadm, hadm] using ih
    | true =>
      have hnew : r.url.text ∉ c.frontier.visited :=
        ((Frontier.offerOf_admitted_iff c.frontier r spider).mp hadm).2.2 once
      have hpush : (c.frontier.push r).visited = r.url.text :: c.frontier.visited := by
        simp [Frontier.push, hnew]
      rw [Frontier.offer_of_admits _ _ _ _ hadm, hpush, ih]
      simp [hadm]
  | start _ _ _ ih => exact ih
  | advance _ _ _ ih => exact ih
  | settle _ _ _ _ ih => exact ih

/-- What entered the queue has a request at every lesser depth before it. -/
theorem Moves.depths_subset (once : spider.config.revisit = false)
    (guides : chart.Guides spider world.site) (starts : ∀ r ∈ spider.startRequests, r.depth = 0)
    (h : Moves spider visited world c [] j) {r : Request} (hr : r ∈ j.admitted) :
    List.range (r.depth + 1) ⊆ j.admitted.map (·.depth) := by
  -- by induction on the depth: the page that led to a request is one less deep
  induction hdepth : r.depth generalizing r with
  | zero => simpa using ⟨r, hr, hdepth⟩
  | succ n ih =>
    rcases h.offered_from once guides ((List.filter_sublist.map _).subset hr) with
      hstart | ⟨s, hs, _, _, hdeep⟩
    · have := starts r hstart
      omega
    · rw [List.range_succ]
      refine List.append_subset.mpr
        ⟨ih (h.admitted_of_dispatched (h.dispatched_of_settled hs)) (by omega), ?_⟩
      simpa using ⟨r, hr, hdepth⟩

/-- What is offered lies no deeper than the queue is long. -/
theorem Moves.depth_le_admitted (once : spider.config.revisit = false)
    (guides : chart.Guides spider world.site) (starts : ∀ r ∈ spider.startRequests, r.depth = 0)
    (h : Moves spider visited world c [] j) {r : Request} (hr : r ∈ j.offers.map (·.request)) :
    r.depth ≤ j.admitted.length := by
  rcases h.offered_from once guides hr with hstart | ⟨s, hs, _, _, hdeep⟩
  · have := starts r hstart
    omega
  · have hdepths := h.depths_subset once guides starts
      (h.admitted_of_dispatched (h.dispatched_of_settled hs))
    have hle := (List.nodup_range.subperm hdepths).length_le
    rw [List.length_range, List.length_map] at hle
    omega

/-- An allowed address that is offered enters the queue sooner or later, if the crawl may go as deep
as there are addresses to reach. -/
theorem Moves.admitted_of_offered (once : spider.config.revisit = false)
    (guides : chart.Guides spider world.site) (starts : ∀ r ∈ spider.startRequests, r.depth = 0)
    (h : Moves spider [] world c [] j) {reach : Finset String}
    (sound : ∀ r ∈ j.admitted, r.url.text ∈ reach) (deep : reach.card ≤ spider.config.maxDepth)
    {o : Offer} (ho : o ∈ j.offers) (allowed : spider.Allows o.request.url)
    (reached : o.request.url.text ∈ reach) :
    o.request.url.text ∈ j.admitted.map (·.url.text) := by
  by_contra out
  -- the address and those in the queue are different, so the queue is shorter than the depth
  have hnodup : (o.request.url.text :: j.admitted.map (·.url.text)).Nodup :=
    List.nodup_cons.mpr ⟨out, (h.admitted_nodup once).1⟩
  have hsub : o.request.url.text :: j.admitted.map (·.url.text) ⊆ reach.toList := by
    intro u hu
    rw [Finset.mem_toList]
    rcases List.mem_cons.mp hu with rfl | hu
    · exact reached
    · obtain ⟨r, hr, rfl⟩ := List.mem_map.mp hu
      exact sound r hr
  have hlength := (hnodup.subperm hsub).length_le
  rw [List.length_cons, List.length_map, Finset.length_toList] at hlength
  have hdepth := h.depth_le_admitted once guides starts (List.mem_map_of_mem ho)
  have hnew : o.request.url.text ∉ o.known := by
    intro known
    obtain ⟨before, after, at_⟩ := List.append_of_mem ho
    obtain ⟨p, hp, heligible, htext⟩ := ((h.known_iff at_ _).mp known).resolve_left nofun
    rw [← htext] at out
    exact out (List.mem_map_of_mem (h.admitted_of_eligible (by simp [at_, hp]) heligible))
  exact out (List.mem_map_of_mem
    (h.admitted_of_eligible ho ⟨by omega, allowed, fun _ => hnew⟩))

/-- A crawl that is over has dispatched every address that can be reached, if it may go as deep as
there are such addresses. -/
theorem Run.dispatches_all (once : spider.config.revisit = false)
    (guides : chart.Guides spider world.site) (starts : ∀ r ∈ spider.startRequests, r.depth = 0)
    (run : Run spider [] world c j)
    (quiet : c.tasks = []) (agrees : chart.Agrees j) {reach : Finset String}
    (reached : ∀ u, u ∈ reach ↔ ∃ n, chart.Reaches spider n u)
    (deep : reach.card ≤ spider.config.maxDepth) {n : Nat} {u : String}
    (hu : chart.Reaches spider n u) : u ∈ c.dispatched.map (·.url.text) := by
  have sound : ∀ r ∈ j.admitted, r.url.text ∈ reach := fun r hr => (reached _).mpr
    ⟨r.depth, run.moves.reaches once guides starts (fun s hs => (agrees s hs).mp) hr⟩
  have dispatched : ∀ o ∈ j.offers, spider.Allows o.request.url →
      o.request.url.text ∈ reach → o.request.url.text ∈ c.dispatched.map (·.url.text) := by
    intro o ho allowed hreach
    have hadmitted := run.moves.admitted_of_offered once guides starts sound deep ho allowed hreach
    rwa [← run.moves.queue_eq, run.idle quiet, List.append_nil, List.map_reverse,
      List.mem_reverse] at hadmitted
  induction hu with
  | start hr allowed =>
    obtain ⟨o, ho, rfl⟩ := run.offers_start hr
    exact dispatched o ho allowed ((reached _).mpr ⟨0, .start hr allowed⟩)
  | link hu opens linked allowed ih =>
    obtain ⟨r, hr, rfl⟩ := List.mem_map.mp ih
    obtain ⟨o, ho, rfl, _⟩ := run.offers_links once guides quiet agrees hr opens linked
    exact dispatched o ho allowed ((reached _).mpr ⟨_, .link hu opens linked allowed⟩)

end Crawl

/-- A crawl that follows links, without revisits and on a new crawler, comes to the same addresses
in every order of its tasks and with any number of them at a time, if it may go as deep as there
are addresses to reach. It halts, is never stuck on the way, and when it is over it has dispatched
exactly those addresses, each once, and knows as many. On a site as charted every run comes upon
the pages as the chart says, if no task breaks off. -/
theorem crawl_saturates_in_any_order {k : Crawler σ} {reach : Finset String}
    (guides : chart.Guides spider k.world.site) (starts : ∀ r ∈ spider.startRequests, r.depth = 0)
    (once : spider.config.revisit = false) (fresh : k.visited = [])
    (reached : ∀ u, u ∈ reach ↔ ∃ n, chart.Reaches spider n u)
    (deep : reach.card ≤ spider.config.maxDepth) :
    (∀ desk, spider.onOpen k.world.desk = (.ok (), desk) →
        ∃ c j, k.Running spider c j ∧ c.tasks = []) ∧
      ∀ c j, k.Running spider c j →
        (c.Halts spider ∧ (c.tasks ≠ [] → ∃ c', Crawl.Next spider c c')) ∧
        (chart.Fits spider k.world.site →
          (∀ s ∈ j.settled, ∀ crash, s.2 ≠ .crashed crash) → chart.Agrees j) ∧
        (c.tasks = [] → chart.Agrees j →
          (∀ u, u ∈ c.dispatched.map (·.url.text) ↔ u ∈ reach) ∧
          (c.dispatched.map (·.url.text)).Nodup ∧
          c.dispatched.length = reach.card ∧
          c.frontier.visited.length = reach.card) := by
  refine ⟨fun desk opened => k.exists_end_of_guides once guides starts opened, ?_⟩
  rintro c j ⟨desk, counters, _, run⟩
  rw [fresh] at run
  have guides : chart.Guides spider ({ k.world with counters, desk } : World σ).site := guides
  refine ⟨run.link_halts once guides starts, fun fits unbroken => ?_, fun quiet agrees => ?_⟩
  · exact run.moves.agrees once fits unbroken
  have hnodup := run.moves.dispatched_nodup once
  have hexact : ∀ u, u ∈ c.dispatched.map (·.url.text) ↔ u ∈ reach := by
    intro u
    rw [reached u]
    constructor
    · intro hu
      obtain ⟨r, hr, rfl⟩ := List.mem_map.mp hu
      exact ⟨r.depth, run.moves.reaches once guides starts (fun s hs => (agrees s hs).mp)
        (run.moves.admitted_of_dispatched hr)⟩
    · rintro ⟨n, hu⟩
      exact run.dispatches_all once guides starts quiet agrees reached deep hu
  have hcount : c.dispatched.length = reach.card := by
    have hset : (c.dispatched.map (·.url.text)).toFinset = reach := by
      ext u
      rw [List.mem_toFinset, hexact u]
    rw [← hset, List.toFinset_card_of_nodup hnodup, List.length_map]
  refine ⟨hexact, hnodup, hcount, ?_⟩
  have hqueue := run.moves.queue_eq
  rw [run.idle quiet, List.append_nil] at hqueue
  rw [run.moves.visited_eq once, ← hqueue]
  simpa using hcount

/-- The addresses of the small site that can be reached. -/
def sampleReach : Finset String :=
  (["a", "b", "c", "d", "e", "f", "g"].map fun name => (samplePage name).text).toFinset

theorem mem_sampleReach_iff (u : String) :
    u ∈ sampleReach ↔ ∃ n, sampleChart.Reaches (linkSpider 7 2) n u := by
  constructor
  · intro hu
    have step : ∀ {n name} next, sampleChart.Reaches (linkSpider 7 2) n (samplePage name).text →
        (samplePage name).text ≠ "https://site.example/g" ∧
          samplePage next ∈ sampleChart.links (samplePage name).text ∧
          (linkSpider 7 2).Allows (samplePage next) →
        sampleChart.Reaches (linkSpider 7 2) (n + 1) (samplePage next).text :=
      fun _ reached way => .link reached way.1 way.2.1 way.2.2
    have ha : sampleChart.Reaches (linkSpider 7 2) 0 (samplePage "a").text :=
      .start (r := .start (samplePage "a")) List.mem_cons_self (by decide +kernel)
    have hb := step "b" ha (by decide +kernel)
    have hc := step "c" ha (by decide +kernel)
    have hd := step "d" hc (by decide +kernel)
    have hg := step "g" hc (by decide +kernel)
    have he := step "e" hb (by decide +kernel)
    have hf := step "f" he (by decide +kernel)
    simp only [sampleReach, List.mem_toFinset, List.map_cons, List.map_nil, List.mem_cons,
      List.not_mem_nil, or_false] at hu
    rcases hu with rfl | rfl | rfl | rfl | rfl | rfl | rfl
    exacts [⟨_, ha⟩, ⟨_, hb⟩, ⟨_, hc⟩, ⟨_, hd⟩, ⟨_, he⟩, ⟨_, hf⟩, ⟨_, hg⟩]
  · rintro ⟨n, reached⟩
    have closed : ∀ u ∈ sampleReach, u ≠ "https://site.example/g" →
        ∀ v ∈ sampleChart.links u, (linkSpider 7 2).Allows v → v.text ∈ sampleReach := by
      decide +kernel
    induction reached with
    | start hr _ =>
      obtain rfl := List.mem_singleton.mp hr
      decide +kernel
    | link _ opens linked allowed ih => exact closed _ ih opens _ linked allowed

/-- Two pages at a time. The page `e` is found by the long way, since `b` takes its time. -/
theorem crawl_saturates_in_any_order_sample :
    let c := linkCrawl 7 2
    sampleReach.card = 7 ∧ c.tasks = [] ∧ sampleChart.Agrees (linkJournal 7 2) ∧
      c.dispatched.reverse.map (fun r => (r.url, r.depth)) =
        [(samplePage "a", 0), (samplePage "b", 1), (samplePage "c", 1), (samplePage "d", 2),
          (samplePage "g", 2), (samplePage "e", 3), (samplePage "f", 4)] ∧
      (∀ u, u ∈ c.dispatched.map (·.url.text) ↔ u ∈ sampleReach) ∧
      c.frontier.visited.length = 7 := by
  intro c
  have card : sampleReach.card = 7 := by decide +kernel
  have quiet : c.tasks = [] := List.isEmpty_iff.mp (by decide +kernel)
  have whole : ∀ s ∈ (linkJournal 7 2).settled,
      (match s.2 with | .crashed _ => false | _ => true) = true := by
    decide +kernel
  obtain ⟨_, hruns⟩ := crawl_saturates_in_any_order (k := linkCrawler) (linkSpider_guided 7 2)
    (linkSpider_starts 7 2) rfl rfl mem_sampleReach_iff (Nat.le_of_eq card)
  obtain ⟨_, hagrees, hend⟩ := hruns _ _ (linkCrawl_running 7 2)
  have agrees := hagrees (linkCrawler_fits 7 2) fun s hs crash hcrash => by
    have := whole s hs
    rw [hcrash] at this
    cases this
  obtain ⟨hexact, _, _, hvisited⟩ := hend quiet agrees
  exact ⟨card, quiet, agrees, by decide +kernel, hexact, hvisited.trans card⟩

end SiteSpiders

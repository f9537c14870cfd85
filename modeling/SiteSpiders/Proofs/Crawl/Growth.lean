import Mathlib.Algebra.BigOperators.Intervals
import Mathlib.Algebra.Order.BigOperators.Group.Finset
import Mathlib.Algebra.Ring.GeomSum
import SiteSpiders.Proofs.Crawl.Progress

/-!
# How far a crawl can grow

Two bounds on the requests that a crawl dispatches, each of which makes it end. Without
revisits an address is dispatched once, and only if it is new. With revisits a request
stands for the tree of all that it can lead to: the tasks that left and the trees of the
requests that are still about never exceed the trees of the start.
-/
namespace SiteSpiders

variable {σ : Type} {spider : Spider σ} {visited : List String} {world : World σ} {c : Crawl σ}
  {hand : List Request} {j : Journal}

/-- The requests that a request can lead to, itself included, if every page leads to so many at
most, each deeper than the page. -/
def Spider.treeSize (spider : Spider σ) (B : Nat) (r : Request) : Nat :=
  ∑ i ∈ Finset.range (spider.config.maxDepth - r.depth), B ^ i

namespace Spider

variable {B : Nat} {r : Request}

theorem treeSize_le (spider : Spider σ) (B : Nat) (r : Request) :
    spider.treeSize B r ≤ ∑ i ∈ Finset.range spider.config.maxDepth, B ^ i :=
  Finset.sum_le_sum_of_subset (Finset.range_mono (Nat.sub_le _ _))

/-- A request within the depth stands for itself and for the trees of what it leads to. -/
theorem treeSize_eq (within : r.depth < spider.config.maxDepth) :
    spider.treeSize B r =
      B * ∑ i ∈ Finset.range (spider.config.maxDepth - (r.depth + 1)), B ^ i + 1 := by
  have hroom : spider.config.maxDepth - r.depth = spider.config.maxDepth - (r.depth + 1) + 1 := by
    omega
  rw [treeSize, hroom, geom_sum_succ]

/-- Requests that a request leads to have trees that fit into its own, if they are few enough. -/
theorem treeSize_children {requests : List Request} (within : r.depth < spider.config.maxDepth)
    (few : requests.length ≤ B) (deeper : ∀ q ∈ requests, r.depth < q.depth) :
    (requests.map (spider.treeSize B)).sum + 1 ≤ spider.treeSize B r := by
  have hchild : ∀ n ∈ requests.map (spider.treeSize B),
      n ≤ ∑ i ∈ Finset.range (spider.config.maxDepth - (r.depth + 1)), B ^ i := by
    intro n hn
    obtain ⟨q, hq, rfl⟩ := List.mem_map.mp hn
    have := deeper q hq
    exact Finset.sum_le_sum_of_subset (Finset.range_mono (by omega))
  have hsum := List.sum_le_card_nsmul _ _ hchild
  rw [List.length_map, smul_eq_mul] at hsum
  rw [treeSize_eq within]
  exact Nat.succ_le_succ (hsum.trans (Nat.mul_le_mul_right _ few))

end Spider

/-- Whether the tasks that left led to so many requests at most, each deeper than the task. -/
def Journal.Spreads (j : Journal) (B : Nat) : Prop :=
  ∀ s ∈ j.settled, ((Crawl.followUps? s.2).getD []).length ≤ B ∧
    ∀ r ∈ (Crawl.followUps? s.2).getD [], s.1.depth < r.depth

namespace Crawl

/-- The tasks that left and the trees of the requests that are in flight, wait or are still to be
offered fit into the trees of the start. -/
theorem Moves.trees_le {B : Nat} (spreads : j.Spreads B)
    (h : Moves spider visited world c hand j) :
    j.settled.length +
        ((c.tasks.map (·.request) ++ c.frontier.pending ++ hand).map (spider.treeSize B)).sum ≤
      spider.startRequests.length * ∑ i ∈ Finset.range spider.config.maxDepth, B ^ i := by
  induction h with
  | begin_ =>
    have hstart : ∀ n ∈ spider.startRequests.map (spider.treeSize B),
        n ≤ ∑ i ∈ Finset.range spider.config.maxDepth, B ^ i := by
      intro n hn
      obtain ⟨r, _, rfl⟩ := List.mem_map.mp hn
      exact spider.treeSize_le B r
    simpa using List.sum_le_card_nsmul _ _ hstart
  | @offer c r rest j _ ih =>
    have hbefore := ih spreads
    cases hadm : c.frontier.admits spider.config spider.domains r with
    | true => simpa [Frontier.offer_of_admits _ _ _ _ hadm] using hbefore
    | false =>
      rw [Frontier.offer_of_not_admits _ _ _ _ hadm]
      simp only [List.map_append, List.map_cons, List.sum_append, List.sum_cons,
        Journal.offered_settled] at hbefore ⊢
      omega
  | start _ next _ ih =>
    have hbefore := ih spreads
    simpa [next] using hbefore
  | advance _ at_ _ ih =>
    have hbefore := ih spreads
    simpa [at_] using hbefore
  | @settle c j before after t outcome requests moves at_ _ goes ih =>
    have hbefore := ih fun s hs => spreads s (by simp [hs])
    have hwithin := (moves.admitted_within
      (moves.admitted_of_dispatched (moves.dispatched_of_task (t := t) (by simp [at_])))).1
    obtain ⟨few, deeper⟩ := spreads (t.request, outcome) (by simp)
    simp only [goes, Option.getD_some] at few deeper
    have hchildren := Spider.treeSize_children hwithin few deeper
    simp only [at_, List.map_append, List.map_cons, List.sum_append, List.sum_cons, List.map_nil,
      List.sum_nil, Journal.left_settled, List.length_append, List.length_singleton] at hbefore ⊢
    omega

/-- A run dispatches no more requests than the trees of the start hold. -/
theorem Moves.dispatched_le_trees {B : Nat} (spreads : j.Spreads B)
    (h : Moves spider visited world c hand j) :
    c.dispatched.length ≤
      spider.startRequests.length * ∑ i ∈ Finset.range spider.config.maxDepth, B ^ i := by
  have htrees := h.trees_le spreads
  have hcount := h.settled_perm.length_eq
  -- every task in flight is the root of a tree
  have hroots : c.tasks.length ≤ ((c.tasks.map (·.request)).map (spider.treeSize B)).sum := by
    have hroot : ∀ n ∈ (c.tasks.map (·.request)).map (spider.treeSize B), 1 ≤ n := by
      intro n hn
      obtain ⟨r, hr, rfl⟩ := List.mem_map.mp hn
      obtain ⟨t, ht, rfl⟩ := List.mem_map.mp hr
      rw [Spider.treeSize_eq (h.admitted_within
        (h.admitted_of_dispatched (h.dispatched_of_task ht))).1]
      exact Nat.succ_le_succ (Nat.zero_le _)
    simpa using List.card_nsmul_le_sum _ _ hroot
  simp only [List.map_append, List.sum_append, List.length_append, List.length_map] at htrees hcount
  omega

/-- Without revisits a run dispatches no more requests than there are new addresses, if all that
was offered has an address of some set. -/
theorem Moves.dispatched_le_card (once : spider.config.revisit = false) {U : Finset String}
    (confined : ∀ o ∈ j.offers, o.request.url.text ∈ U)
    (h : Moves spider visited world c hand j) :
    c.dispatched.length ≤ (U \ visited.toFinset).card := by
  have hsub : (c.dispatched.map (·.url.text)).toFinset ⊆ U \ visited.toFinset := by
    intro u hu
    obtain ⟨r, hr, rfl⟩ := List.mem_map.mp (List.mem_toFinset.mp hu)
    obtain ⟨o, ho, rfl⟩ := List.mem_map.mp (h.dispatched_offered hr)
    have hnew := (h.admitted_nodup once).2 _
      (List.mem_map_of_mem (h.admitted_of_dispatched hr))
    exact Finset.mem_sdiff.mpr ⟨confined o ho, by simpa using hnew⟩
  have hcard := Finset.card_le_card hsub
  rwa [List.toFinset_card_of_nodup (h.dispatched_nodup once), List.length_map] at hcard

end Crawl

/-- A crawl ends in whatever order tasks go on and are settled, on either of two conditions. If
addresses are not revisited and all requests that runs emit have addresses of a finite set, it
dispatches no more requests than the set has addresses that were not known before. If every task
leads to `B` requests at most, each deeper than the task, it dispatches no more than
`1 + B + ... + B ^ (maxDepth - 1)` for each start request, whether or not it revisits. -/
theorem crawl_grows_boundedly_and_ends {k : Crawler σ} :
    (∀ U : Finset String, spider.config.revisit = false →
      (∀ c j, k.Running spider c j → ∀ o ∈ j.offers, o.request.url.text ∈ U) →
      ∀ c j, k.Running spider c j →
        c.dispatched.length ≤ (U \ k.visited.toFinset).card ∧ c.Ends spider) ∧
    ∀ B : Nat, (∀ c j, k.Running spider c j → j.Spreads B) →
      ∀ c j, k.Running spider c j →
        c.dispatched.length ≤
          spider.startRequests.length * ∑ i ∈ Finset.range spider.config.maxDepth, B ^ i ∧
        c.Ends spider := by
  refine ⟨fun U once confined c j running => ?_, fun B spreads c j running => ?_⟩
  · obtain ⟨desk, counters, opened, run⟩ := id running
    refine ⟨run.moves.dispatched_le_card once (confined c j running), run.ends ?_⟩
    exact run.halts fun c j run =>
      run.moves.dispatched_le_card once (confined c j ⟨desk, counters, opened, run⟩)
  · obtain ⟨desk, counters, opened, run⟩ := id running
    refine ⟨run.moves.dispatched_le_trees (spreads c j running), run.ends ?_⟩
    exact run.halts_of_deepening fun c j run s hs =>
      (spreads c j ⟨desk, counters, opened, run⟩ s hs).2

/-- The addresses that the pages of the small site link to, and its start. -/
def linkTargets : Finset String :=
  insert "https://other.example/b"
    ((["a", "b", "c", "d", "e", "f", "g", "h"].map fun name => (samplePage name).text).toFinset)

/-- A crawler on the small site that knows the page `c` from before. -/
def partedCrawler : Crawler Unit := { linkCrawler with visited := [(samplePage "c").text] }

theorem partedCrawler_confined (c : Crawl Unit) (j : Journal)
    (running : partedCrawler.Running (linkSpider 7 2) c j) :
    ∀ o ∈ j.offers, o.request.url.text ∈ linkTargets := by
  have hlinks : ∀ u, ∀ v ∈ sampleChart.links u, v.text ∈ linkTargets := by
    intro u
    unfold sampleChart
    dsimp only
    split <;> decide +kernel
  obtain ⟨desk, counters, _, run⟩ := running
  have guides : sampleChart.Guides (linkSpider 7 2)
      ({ partedCrawler.world with counters, desk } : World Unit).site := linkSpider_guided 7 2
  intro o ho
  rcases run.moves.offered_from rfl guides (List.mem_map_of_mem ho) with
    hstart | ⟨s, _, _, hlink, _⟩
  · rw [List.mem_singleton.mp hstart]
    decide +kernel
  · exact hlinks _ _ hlink

/-- A spider that follows the links of the small site again and again, down to a depth. -/
def revisitingSpider : Spider Unit :=
  { linkSpider 3 2 with config := { maxDepth := 3, maxConcurrency := 2, revisit := true } }

theorem revisitingSpider_spreads (c : Crawl Unit) (j : Journal)
    (running : linkCrawler.Running revisitingSpider c j) : j.Spreads 3 := by
  have hlinks : ∀ u, (sampleChart.links u).length ≤ 3 := by
    intro u
    unfold sampleChart
    dsimp only
    split <;> decide
  obtain ⟨desk, counters, _, run⟩ := running
  intro s hs
  by_cases hnone : (Crawl.followUps? s.2).getD [] = []
  · simp [hnone]
  · obtain ⟨r, hr⟩ := List.exists_mem_of_ne_nil _ hnone
    obtain ⟨p, _, hreq, hrest⟩ := run.moves.settled_led hs hr
    obtain ⟨request, outcome⟩ := s
    cases Reading.rest_of_done hrest
    obtain rfl : p.request = request := hreq
    exact ⟨by simpa [Crawl.followUps?] using hlinks p.url.text, by simp [Crawl.followUps?]⟩

/-- What the crawl that knows a page comes to by the clock. -/
def partedCrawl : Crawl Unit :=
  (TimedCrawl.run (linkSpider 7 2) 45
    (partedCrawler.timed (linkSpider 7 2) partedCrawler.world.desk)).crawl

/-- What the crawl with revisits comes to by the clock. -/
def revisitingCrawl : Crawl Unit :=
  (TimedCrawl.run revisitingSpider 60
    (linkCrawler.timed revisitingSpider linkCrawler.world.desk)).crawl

/-- Without revisits four of the eight addresses that are new are dispatched; with revisits the
page `a` is dispatched twice, and the crawl still ends. -/
theorem crawl_grows_boundedly_and_ends_sample :
    (partedCrawl.dispatched.length = 4 ∧ partedCrawl.tasks = [] ∧
        4 ≤ (linkTargets \ partedCrawler.visited.toFinset).card ∧
        partedCrawl.Ends (linkSpider 7 2)) ∧
      revisitingCrawl.dispatched.reverse.map (·.url) =
        ["a", "b", "c", "d", "g", "e", "a"].map samplePage ∧
      7 ≤ 1 * ∑ i ∈ Finset.range 3, 3 ^ i ∧ revisitingCrawl.Ends revisitingSpider := by
  have parted := crawl_grows_boundedly_and_ends.1 linkTargets rfl partedCrawler_confined _ _
    (partedCrawler.running_timed (linkSpider 7 2) 45 rfl)
  have revisiting := crawl_grows_boundedly_and_ends.2 3 revisitingSpider_spreads _ _
    (linkCrawler.running_timed revisitingSpider 60 rfl)
  have computed : partedCrawl.dispatched.length = 4 ∧ partedCrawl.tasks.isEmpty = true ∧
      revisitingCrawl.dispatched.reverse.map (·.url) =
        ["a", "b", "c", "d", "g", "e", "a"].map samplePage := by
    decide +kernel
  obtain ⟨few, quiet, order⟩ := computed
  have seven : revisitingCrawl.dispatched.length = 7 := by simpa using congrArg List.length order
  refine ⟨⟨few, List.isEmpty_iff.mp quiet, few ▸ parted.1, parted.2⟩, order, ?_, revisiting.2⟩
  exact seven ▸ revisiting.1

end SiteSpiders

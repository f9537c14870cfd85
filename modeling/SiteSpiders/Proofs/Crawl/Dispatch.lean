import Mathlib.Data.List.Perm.Basic
import SiteSpiders.Proofs.Crawl.Clock

/-!
# What a run dispatches

The queue of a run in order: the requests that entered it are those dispatched so far
followed by those that wait. A request enters exactly if it is eligible at the moment it
is offered. Slots are never exceeded and never left free while a request waits.
-/
namespace SiteSpiders

variable {σ : Type} {spider : Spider σ} {visited : List String} {world : World σ} {c : Crawl σ}
  {hand : List Request} {j : Journal}

/-- Whether an offered request is to be dispatched: it is not too deep, its host is allowed, and
its address is new unless addresses may be visited again. -/
def Offer.Eligible (spider : Spider σ) (o : Offer) : Prop :=
  o.request.depth < spider.config.maxDepth ∧
    (∀ domains ∈ spider.domains, domainAllowed o.request.url domains = true) ∧
    (spider.config.revisit = false → o.request.url.text ∉ o.known)

instance (spider : Spider σ) (o : Offer) : Decidable (o.Eligible spider) :=
  inferInstanceAs (Decidable (_ ∧ _ ∧ _))

namespace Frontier

variable (f : Frontier) (config : Config) (domains : Option (List String)) (r : Request)

lemma offer_of_admits (h : f.admits config domains r = true) :
    f.offer config domains r = f.push r := if_pos h

lemma offer_of_not_admits (h : f.admits config domains r = false) :
    f.offer config domains r = f := by simp [offer, h]

@[simp] theorem push_pending : (f.push r).pending = f.pending ++ [r] := rfl

@[simp] theorem mem_push_visited (u : String) :
    u ∈ (f.push r).visited ↔ u ∈ f.visited ∨ u = r.url.text := by
  simp only [push]
  split_ifs with h
  · have hmem : r.url.text ∈ f.visited := by simpa using h
    constructor
    · exact Or.inl
    · rintro (hu | rfl)
      · exact hu
      · exact hmem
  · simp [or_comm]

@[simp] theorem offerOf_request : (f.offerOf config domains r).request = r := rfl

@[simp] theorem offerOf_known : (f.offerOf config domains r).known = f.visited := rfl

@[simp] theorem offerOf_admitted :
    (f.offerOf config domains r).admitted = f.admits config domains r := rfl

theorem offerOf_admitted_iff (spider : Spider σ) :
    (f.offerOf spider.config spider.domains r).admitted = true ↔
      (f.offerOf spider.config spider.domains r).Eligible spider := by
  simp only [offerOf, admits, Offer.Eligible, Bool.and_eq_true, decide_eq_true_eq,
    Bool.or_eq_true, Bool.not_eq_true', and_assoc]
  refine and_congr_right fun _ => and_congr ?_ ?_
  · cases spider.domains <;> simp
  · cases spider.config.revisit <;> simp

end Frontier

namespace Journal

@[simp] theorem offered_offers (j : Journal) (os : List Offer) :
    (j.offered os).offers = j.offers ++ os := rfl

@[simp] theorem offered_settled (j : Journal) (os : List Offer) :
    (j.offered os).settled = j.settled := rfl

@[simp] theorem advanced_offers (j : Journal) (page : Option Response) :
    (j.advanced page).offers = j.offers := rfl

@[simp] theorem advanced_settled (j : Journal) (page : Option Response) :
    (j.advanced page).settled = j.settled := rfl

@[simp] theorem left_offers (j : Journal) (r : Request) (outcome : Outcome) :
    (j.left r outcome).offers = j.offers := rfl

@[simp] theorem left_settled (j : Journal) (r : Request) (outcome : Outcome) :
    (j.left r outcome).settled = j.settled ++ [(r, outcome)] := rfl

@[simp] theorem admitted_advanced (j : Journal) (page : Option Response) :
    (j.advanced page).admitted = j.admitted := rfl

@[simp] theorem admitted_left (j : Journal) (r : Request) (outcome : Outcome) :
    (j.left r outcome).admitted = j.admitted := rfl

theorem admitted_offered (j : Journal) (o : Offer) :
    (j.offered [o]).admitted = j.admitted ++ if o.admitted then [o.request] else [] := by
  cases h : o.admitted <;> simp [admitted, h]

end Journal

namespace Crawl.Moves

/-- What entered the queue is what was dispatched and then what waits, in one order. -/
theorem queue_eq (h : Moves spider visited world c hand j) :
    c.dispatched.reverse ++ c.frontier.pending = j.admitted := by
  induction h with
  | begin_ => rfl
  | @offer c r rest j _ ih =>
    rw [Journal.admitted_offered]
    cases hadm : c.frontier.admits spider.config spider.domains r with
    | true =>
      simp only [Frontier.offer_of_admits _ _ _ _ hadm, Frontier.push_pending,
        Frontier.offerOf_admitted, hadm, if_true, Frontier.offerOf_request]
      rw [← ih, List.append_assoc]
    | false =>
      simpa [Frontier.offer_of_not_admits _ _ _ _ hadm, hadm] using ih
  | start _ next _ ih =>
    rw [← ih, next]
    simp
  | advance _ _ _ ih => exact ih
  | settle _ _ _ _ ih => exact ih

/-- The known addresses are those known at first and those that entered the queue since. -/
theorem mem_visited_iff (h : Moves spider visited world c hand j) (u : String) :
    u ∈ c.frontier.visited ↔ u ∈ visited ∨ u ∈ j.admitted.map (·.url.text) := by
  induction h with
  | begin_ => simp [Journal.admitted]
  | @offer c r rest j _ ih =>
    rw [Journal.admitted_offered]
    cases hadm : c.frontier.admits spider.config spider.domains r with
    | true =>
      simp only [Frontier.offer_of_admits _ _ _ _ hadm, Frontier.mem_push_visited, ih,
        Frontier.offerOf_admitted, hadm, if_true, Frontier.offerOf_request, List.map_append,
        List.mem_append, List.map_cons, List.map_nil, List.mem_singleton, or_assoc]
    | false =>
      simpa [Frontier.offer_of_not_admits _ _ _ _ hadm, hadm] using ih
  | start _ _ _ ih => exact ih
  | advance _ _ _ ih => exact ih
  | settle _ _ _ _ ih => exact ih

theorem tasks_sublist (h : Moves spider visited world c hand j) :
    (c.tasks.map (·.request)).Sublist c.dispatched.reverse := by
  induction h with
  | begin_ => exact List.Sublist.slnil
  | offer _ ih => exact ih
  | @start _ r _ _ _ _ _ ih => simpa using ih.append (List.Sublist.refl [r])
  | advance _ at_ _ ih => simpa [at_] using ih
  | settle _ at_ _ _ ih =>
    exact ((others_sublist at_).map _).trans ih

theorem settled_perm (h : Moves spider visited world c hand j) :
    (j.settled.map Prod.fst ++ c.tasks.map (·.request)).Perm c.dispatched := by
  induction h with
  | begin_ => exact List.Perm.refl _
  | offer _ ih => exact ih
  | @start c r rest j _ _ _ ih =>
    simp only [start_tasks, start_dispatched, List.map_append, List.map_cons, List.map_nil,
      ← List.append_assoc]
    exact (List.perm_append_singleton _ _).trans (ih.cons r)
  | advance _ at_ _ ih => simpa [at_] using ih
  | @settle c j before after t _ _ _ at_ _ _ ih =>
    refine List.Perm.trans ?_ ih
    simp only [at_, Journal.left_settled, List.map_append, List.map_cons, List.map_nil,
      List.append_assoc, List.singleton_append]
    exact (List.perm_middle).symm.append_left _

/-- The engine is offered the start requests and what settled tasks lead to, and nothing else. -/
theorem offers_eq (h : Moves spider visited world c hand j) :
    j.offers.map (·.request) ++ hand =
      spider.startRequests ++ j.settled.flatMap fun s => (followUps? s.2).getD [] := by
  induction h with
  | begin_ => simp
  | offer _ ih => simpa using ih
  | start _ _ _ ih => exact ih
  | advance _ _ _ ih => exact ih
  | settle _ _ _ goes ih =>
    rw [List.append_nil] at ih
    simp [ih, goes]

theorem admitted_iff (h : Moves spider visited world c hand j) :
    ∀ o ∈ j.offers, o.admitted = true ↔ o.Eligible spider := by
  induction h with
  | begin_ => simp
  | @offer c r rest j _ ih =>
    intro o ho
    rw [Journal.offered_offers, List.mem_append, List.mem_singleton] at ho
    rcases ho with ho | rfl
    · exact ih o ho
    · exact Frontier.offerOf_admitted_iff _ _ _
  | start _ _ _ ih => exact ih
  | advance _ _ _ ih => exact ih
  | settle _ _ _ _ ih => exact ih

theorem admitted_eq (h : Moves spider visited world c hand j) :
    j.admitted = (j.offers.filter fun o => decide (o.Eligible spider)).map (·.request) := by
  unfold Journal.admitted
  congr 1
  refine List.filter_congr fun o ho => ?_
  rw [Bool.eq_iff_iff, decide_eq_true_eq]
  exact h.admitted_iff o ho

/-- At the moment of an offer those addresses are known that were known at first or entered the
queue by an earlier offer. -/
theorem known_iff (h : Moves spider visited world c hand j) {before after : List Offer} {o : Offer}
    (at_ : j.offers = before ++ o :: after) (u : String) :
    u ∈ o.known ↔ u ∈ visited ∨ ∃ p ∈ before, p.Eligible spider ∧ p.request.url.text = u := by
  induction h generalizing after with
  | begin_ => simp at at_
  | @offer c r rest j moves ih =>
    rw [Journal.offered_offers] at at_
    rcases List.eq_nil_or_concat after with rfl | ⟨after, last, rfl⟩
    · obtain ⟨rfl, hlast⟩ := List.append_inj' at_ rfl
      obtain rfl : c.frontier.offerOf spider.config spider.domains r = o := by simpa using hlast
      rw [Frontier.offerOf_known, moves.mem_visited_iff, moves.admitted_eq]
      simp [and_assoc]
    · rw [List.concat_eq_append, ← List.cons_append, ← List.append_assoc] at at_
      exact ih (List.append_inj' at_ rfl).1
  | start _ _ _ ih => exact ih at_
  | advance _ _ _ ih => exact ih at_
  | settle _ _ _ _ ih => exact ih at_

theorem tasks_le_slots (h : Moves spider visited world c hand j) :
    c.tasks.length ≤ spider.config.slots := by
  induction h with
  | begin_ => exact Nat.zero_le _
  | offer _ ih => exact ih
  | start _ _ free _ =>
    simp only [start_tasks, List.length_append, List.length_singleton]
    omega
  | advance _ at_ _ ih => simpa [at_] using ih
  | settle _ at_ _ _ ih =>
    simp only [at_, List.length_append, List.length_cons] at ih ⊢
    omega

end Crawl.Moves

namespace Crawl

/-- Starting tasks stops only when as many were started as asked for or none waits. -/
theorem startUpTo_pending (n : Nat) (c : Crawl σ) :
    (startUpTo n c).frontier.pending = [] ∨ (startUpTo n c).tasks.length = c.tasks.length + n := by
  induction n generalizing c with
  | zero => exact Or.inr rfl
  | succ n ih =>
    unfold startUpTo
    split
    · exact Or.inl ‹_›
    · rename_i r rest next
      refine (ih (c.start r rest)).imp_right fun h => ?_
      simp only [start_tasks, List.length_append, List.length_singleton] at h
      omega

theorem fill_pending (c : Crawl σ) (slots : Nat) :
    (c.fill slots).frontier.pending = [] ∨ slots ≤ (c.fill slots).tasks.length :=
  (startUpTo_pending _ c).imp_right fun h => by unfold fill; omega

theorem Run.slots_le_tasks (h : Run spider visited world c j) (waits : c.frontier.pending ≠ []) :
    spider.config.slots ≤ c.tasks.length := by
  induction h with
  | start => exact (fill_pending _ _).resolve_left waits
  | @advance c j t _ at_ _ ih =>
    simp only [advance_eq at_, setPhase, List.length_map] at waits ⊢
    exact ih waits
  | settle _ at_ ended goes _ =>
    rw [settle_eq at_ ended] at goes
    obtain ⟨requests, _, rfl⟩ := Option.map_eq_some_iff.mp goes
    exact (fill_pending _ _).resolve_left waits

theorem Run.idle (h : Run spider visited world c j) (quiet : c.tasks = []) :
    c.frontier.pending = [] := by
  by_contra waits
  have hle := h.slots_le_tasks waits
  simp only [quiet, List.length_nil, Config.slots] at hle
  omega

/-- A request that entered the queue is dispatched once its turn comes: all that entered are but
the slots and the settled tasks can hold. -/
theorem Run.dispatched_of_lt (h : Run spider visited world c j) {i : Nat} {r : Request}
    (entered : j.admitted[i]? = some r) (turn : i < spider.config.slots + j.settled.length) :
    c.dispatched.reverse[i]? = some r := by
  have hcount : j.settled.length + c.tasks.length = c.dispatched.length := by
    simpa using h.moves.settled_perm.length_eq
  rw [← h.moves.queue_eq] at entered
  by_cases waits : c.frontier.pending = []
  · simpa [waits] using entered
  · have hslots := h.slots_le_tasks waits
    rwa [List.getElem?_append_left (by rw [List.length_reverse]; omega)] at entered

end Crawl

/-- In a run that was opened and not stopped, a request that is offered, at the start or by a
finished task, is dispatched exactly once if it is eligible at that moment and never otherwise, in
the order of the offers. The slots bound the tasks in flight and are full while a request waits,
and nothing waits once no task is in flight. -/
theorem running_dispatches_eligible {k : Crawler σ} (h : k.Running spider c j) :
    j.offers.map (·.request) =
        spider.startRequests ++ j.settled.flatMap (fun s => (Crawl.followUps? s.2).getD []) ∧
      (j.settled.map Prod.fst ++ c.tasks.map (·.request)).Perm c.dispatched ∧
      (∀ before o after, j.offers = before ++ o :: after → ∀ u, u ∈ o.known ↔
        u ∈ k.visited ∨ ∃ p ∈ before, p.Eligible spider ∧ p.request.url.text = u) ∧
      c.dispatched.reverse ++ c.frontier.pending =
        (j.offers.filter fun o => decide (o.Eligible spider)).map (·.request) ∧
      (∀ i r, ((j.offers.filter fun o => decide (o.Eligible spider)).map (·.request))[i]? = some r →
        i < max 1 spider.config.maxConcurrency + j.settled.length →
        c.dispatched.reverse[i]? = some r) ∧
      c.tasks.length ≤ max 1 spider.config.maxConcurrency ∧
      (c.frontier.pending ≠ [] → c.tasks.length = max 1 spider.config.maxConcurrency) ∧
      (c.tasks = [] → c.frontier.pending = [] ∧ c.dispatched.reverse =
        (j.offers.filter fun o => decide (o.Eligible spider)).map (·.request)) := by
  obtain ⟨desk, counters, _, run⟩ := h
  have hslots : spider.config.slots = max 1 spider.config.maxConcurrency := Nat.max_comm _ _
  have hqueue := run.moves.queue_eq.trans run.moves.admitted_eq
  have hoffers := run.moves.offers_eq
  rw [List.append_nil] at hoffers
  refine ⟨hoffers, run.moves.settled_perm, fun before o after at_ u => run.moves.known_iff at_ u,
    hqueue, ?_, ?_, ?_, ?_⟩
  · intro i r entered turn
    rw [← run.moves.admitted_eq] at entered
    exact run.dispatched_of_lt entered (hslots ▸ turn)
  · exact hslots ▸ run.moves.tasks_le_slots
  · intro waits
    rw [← hslots]
    exact Nat.le_antisymm run.moves.tasks_le_slots (run.slots_le_tasks waits)
  · intro quiet
    have idle := run.idle quiet
    exact ⟨idle, by simpa [idle] using hqueue⟩

/-- A page of a small site. -/
def samplePage (name : String) : Url where
  scheme := "https"
  authority := some { host := some (.domain "site.example") }
  path := .rooted [name]

/-- A spider that does the same with every page, one at a time. -/
def sampleSpider (start : List String) (outcome : Outcome) : Spider Unit where
  name := "sample"
  start := start.map samplePage
  config := { maxConcurrency := 0 }
  read _ := .done outcome

/-- A crawler on a site of empty pages. -/
def sampleCrawler (visited : List String) : Crawler Unit where
  visited := visited
  world := { site := { reply := fun _ url => .ok { url } }, desk := { store := () } }

/-- What a crawl of the sample site comes to by the clock. -/
def sampleCrawl (visited start : List String) (outcome : Outcome) : Crawl Unit :=
  (TimedCrawl.run (sampleSpider start outcome) 20 (.ofCrawl (Crawl.begin_
    (sampleSpider start outcome) visited (sampleCrawler visited).world))).crawl

theorem sampleCrawl_running (visited start : List String) (outcome : Outcome) :
    ∃ j, (sampleCrawler visited).Running (sampleSpider start outcome)
      (sampleCrawl visited start outcome) j :=
  (Crawler.running_of_run (sampleCrawler visited) (sampleSpider start outcome) 20 rfl).1

/-- A run to its end: a page is asked for twice at the start, and every page leads to a new page, a
known one and one that lies too deep. -/
theorem running_dispatches_eligible_sample :
    let links : List Request := [{ url := samplePage "b", depth := 1 },
      { url := samplePage "a", depth := 1 }, { url := samplePage "c", depth := 8 }]
    let c := sampleCrawl [] ["a", "a"] (.proceed links)
    let spider := sampleSpider ["a", "a"] (.proceed links)
    c.tasks = [] ∧ c.dispatched.reverse.map (·.url) = [samplePage "a", samplePage "b"] ∧
      ∃ j, (sampleCrawler []).Running spider c j ∧ c.dispatched.reverse =
        (j.offers.filter fun o => decide (o.Eligible spider)).map (·.request) := by
  intro links c spider
  have ended : c.tasks = [] := List.isEmpty_iff.mp (by decide +kernel)
  obtain ⟨j, running⟩ := sampleCrawl_running [] ["a", "a"] (.proceed links)
  exact ⟨ended, by decide +kernel, j, running,
    ((running_dispatches_eligible running).2.2.2.2.2.2.2 ended).2⟩

end SiteSpiders

import Mathlib.Data.List.Nodup
import SiteSpiders.Crawl.Clock

/-!
# Runs of a crawl

A run is any order in which the tasks of a crawl are advanced and settled. It keeps a
journal of what the engine was offered, which pages were read and how tasks ended. What
a run preserves is proved by one induction over its smallest moves: a request is
offered, a task is started, a task goes on, a task leaves.
-/
namespace SiteSpiders

variable {σ : Type}

/-- A request offered to a frontier, with the addresses known at that moment and whether the
request was let in. -/
structure Offer where
  request : Request
  known : List String
  admitted : Bool

namespace Frontier

/-- The offer a request makes to a frontier. -/
def offerOf (config : Config) (domains : Option (List String)) (f : Frontier) (r : Request) :
    Offer where
  request := r
  known := f.visited
  admitted := f.admits config domains r

/-- The offers that requests make to a frontier one after the other. -/
def offersOf (config : Config) (domains : Option (List String)) : Frontier → List Request →
    List Offer
  | _, [] => []
  | f, r :: rest =>
    f.offerOf config domains r :: offersOf config domains (f.offer config domains r) rest

end Frontier

/-- What happened in a run so far. All lists are in order of time. -/
structure Journal where
  /-- The steps of tasks and the settlements. -/
  moves : Nat := 0
  offers : List Offer := []
  /-- The pages handed to the spider. -/
  pages : List Response := []
  /-- The tasks that ended and left, with their outcomes. -/
  settled : List (Request × Outcome) := []

namespace Journal

/-- The requests that entered the queue. -/
def admitted (j : Journal) : List Request := (j.offers.filter (·.admitted)).map (·.request)

/-- A task went on, perhaps with a page for the spider. -/
def advanced (j : Journal) (page : Option Response) : Journal :=
  { j with moves := j.moves + 1, pages := j.pages ++ page.toList }

/-- A task left with an outcome. -/
def left (j : Journal) (request : Request) (outcome : Outcome) : Journal :=
  { j with moves := j.moves + 1, settled := j.settled ++ [(request, outcome)] }

def offered (j : Journal) (offers : List Offer) : Journal := { j with offers := j.offers ++ offers }

end Journal

namespace Crawl

/-- The page that the coming step of a task hands to the spider. -/
def delivery? (spider : Spider σ) (w : World σ) (t : Task σ) : Option Response :=
  match t.phase with
  | .fetching phase =>
    match (w.fetchStep spider.config.retry.categories t.request phase).1 with
    | .over (.response r) => if spider.config.accepts r.status then some r else none
    | _ => none
  | _ => none

/-- What a spider's run on known addresses can come to, with the journal of the way there. Any
task that has not ended may go on, and any that has may be settled. -/
inductive Run (spider : Spider σ) (visited : List String) (world : World σ) :
    Crawl σ → Journal → Prop
  | start : Run spider visited world (begin_ spider visited world)
      (Journal.offered {} (({ visited } : Frontier).offersOf spider.config spider.domains
        spider.startRequests))
  | advance {c : Crawl σ} {j : Journal} {t : Task σ} (run : Run spider visited world c j)
      (at_ : c.task? t.ticket = some t) (busy : t.phase.isEnded = false) :
      Run spider visited world (c.advance spider t.ticket).2
        (j.advanced (delivery? spider c.world t))
  | settle {c c' : Crawl σ} {j : Journal} {t : Task σ} {outcome : Outcome}
      (run : Run spider visited world c j) (at_ : c.task? t.ticket = some t)
      (ended : t.phase = .ended outcome) (goes : c.settle spider t.ticket = some c') :
      Run spider visited world c' ((j.left t.request outcome).offered
        (c.frontier.offersOf spider.config spider.domains ((followUps? outcome).getD [])))

end Crawl

/-- A run of a spider on a crawler, once it has been opened. The retry counters may come from
earlier uses of the policy. -/
def Crawler.Running (k : Crawler σ) (spider : Spider σ) (c : Crawl σ) (j : Journal) : Prop :=
  ∃ desk counters, spider.onOpen k.world.desk = (.ok (), desk) ∧
    Crawl.Run spider k.visited { k.world with desk, counters } c j

namespace Frontier

@[simp] theorem offerAll_cons (f : Frontier) (config : Config) (domains : Option (List String))
    (r : Request) (rest : List Request) :
    f.offerAll config domains (r :: rest) =
      (f.offer config domains r).offerAll config domains rest := rfl

end Frontier

namespace Crawl

@[simp] theorem start_tasks (c : Crawl σ) (r : Request) (rest : List Request) :
    (c.start r rest).tasks = c.tasks ++ [{ ticket := c.dispatched.length, request := r }] := rfl

@[simp] theorem start_dispatched (c : Crawl σ) (r : Request) (rest : List Request) :
    (c.start r rest).dispatched = r :: c.dispatched := rfl

@[simp] theorem start_frontier (c : Crawl σ) (r : Request) (rest : List Request) :
    (c.start r rest).frontier = { c.frontier with pending := rest } := rfl

@[simp] theorem start_world (c : Crawl σ) (r : Request) (rest : List Request) :
    (c.start r rest).world = c.world := rfl

/-- The smallest moves of a run. Between them the engine may hold requests that it has still to
offer. -/
inductive Moves (spider : Spider σ) (visited : List String) (world : World σ) :
    Crawl σ → List Request → Journal → Prop
  | begin_ : Moves spider visited world { world, frontier := { visited } } spider.startRequests {}
  | offer {c : Crawl σ} {r : Request} {rest : List Request} {j : Journal}
      (moves : Moves spider visited world c (r :: rest) j) :
      Moves spider visited world
        { c with frontier := c.frontier.offer spider.config spider.domains r } rest
        (j.offered [c.frontier.offerOf spider.config spider.domains r])
  | start {c : Crawl σ} {r : Request} {rest : List Request} {j : Journal}
      (moves : Moves spider visited world c [] j) (next : c.frontier.pending = r :: rest)
      (free : c.tasks.length < spider.config.slots) :
      Moves spider visited world (c.start r rest) [] j
  | advance {c : Crawl σ} {j : Journal} {before after : List (Task σ)} {t : Task σ}
      (moves : Moves spider visited world c [] j) (at_ : c.tasks = before ++ t :: after)
      (busy : t.phase.isEnded = false) :
      Moves spider visited world
        { c with
          world := (taskStep spider t.request c.world t.phase).2.2
          tasks := before ++
            { t with phase := (taskStep spider t.request c.world t.phase).1 } :: after } []
        (j.advanced (delivery? spider c.world t))
  | settle {c : Crawl σ} {j : Journal} {before after : List (Task σ)} {t : Task σ}
      {outcome : Outcome} {requests : List Request}
      (moves : Moves spider visited world c [] j) (at_ : c.tasks = before ++ t :: after)
      (ended : t.phase = .ended outcome) (goes : followUps? outcome = some requests) :
      Moves spider visited world
        { c with world := c.world.note (countOutcome outcome), tasks := before ++ after } requests
        (j.left t.request outcome)

/-- Tickets are numbers of earlier starts, each used once. -/
def Ticketed (c : Crawl σ) : Prop :=
  (c.tasks.map (·.ticket)).Nodup ∧ ∀ t ∈ c.tasks, t.ticket < c.dispatched.length

/-! ## One task and the others -/

section Others

variable {c : Crawl σ} {before after : List (Task σ)} {t u : Task σ}

theorem others_sublist (at_ : c.tasks = before ++ t :: after) :
    (before ++ after).Sublist c.tasks := by
  rw [at_]
  exact List.Sublist.append_left (List.sublist_cons_self t after) before

theorem eq_or_mem_others (hu : u ∈ before ++ t :: after) : u = t ∨ u ∈ before ++ after :=
  List.mem_cons.mp (List.perm_middle.mem_iff.mp hu)

theorem Ticketed.ne_of_others (h : c.Ticketed) (at_ : c.tasks = before ++ t :: after)
    (hu : u ∈ before ++ after) : u.ticket ≠ t.ticket := by
  have nodup := h.1
  rw [at_, List.map_append, List.map_cons, List.nodup_middle, ← List.map_append] at nodup
  exact fun heq => (List.nodup_cons.mp nodup).1 (heq ▸ List.mem_map_of_mem hu)

end Others

/-- A task that a ticket finds stands at one place, where it is changed or taken out. -/
theorem split_at_ticket {c : Crawl σ} {k : Nat} {t : Task σ}
    (nodup : (c.tasks.map (·.ticket)).Nodup) (at_ : c.task? k = some t) :
    ∃ before after, c.tasks = before ++ t :: after ∧
      (∀ phase, (c.setPhase k phase).tasks = before ++ { t with phase } :: after) ∧
      (c.remove k).tasks = before ++ after := by
  obtain ⟨hk, before, after, heq, hbefore⟩ := List.find?_eq_some_iff_append.mp at_
  have hk : t.ticket = k := by simpa using hk
  have hb : ∀ u ∈ before, u.ticket ≠ k := by simpa using hbefore
  have ha : ∀ u ∈ after, u.ticket ≠ k := by
    rw [heq] at nodup
    simp only [List.map_append, List.map_cons] at nodup
    have hnot := (List.nodup_cons.mp (List.nodup_append.mp nodup).2.1).1
    intro u hu he
    exact hnot (List.mem_map.mpr ⟨u, hu, by rw [he, hk]⟩)
  refine ⟨before, after, heq, ?_, ?_⟩
  · intro phase
    have keep : ∀ l : List (Task σ), (∀ u ∈ l, u.ticket ≠ k) →
        (l.map fun u => if u.ticket = k then { u with phase } else u) = l := by
      intro l hl
      exact (List.map_congr_left fun u hu => if_neg (hl u hu)).trans (List.map_id _)
    simp only [setPhase, heq, List.map_append, List.map_cons, keep before hb, keep after ha,
      if_pos hk]
  · have keep : ∀ l : List (Task σ), (∀ u ∈ l, u.ticket ≠ k) →
        l.filter (fun u => u.ticket != k) = l := by
      intro l hl
      exact List.filter_eq_self.mpr fun u hu => by simpa using hl u hu
    simp only [remove, heq, List.filter_append, keep before hb]
    simp [hk, keep after ha]

theorem Moves.ticketed {spider : Spider σ} {visited : List String} {world : World σ}
    {c : Crawl σ} {hand : List Request} {j : Journal} (h : Moves spider visited world c hand j) :
    c.Ticketed := by
  induction h with
  | begin_ => exact ⟨List.nodup_nil, by simp⟩
  | offer _ ih => exact ih
  | @start c r rest j _ _ _ ih =>
    obtain ⟨hn, hl⟩ := ih
    refine ⟨?_, ?_⟩
    · simp only [start_tasks, List.map_append, List.map_cons, List.map_nil]
      refine List.nodup_append.mpr ⟨hn, List.nodup_singleton _, ?_⟩
      intro a ha b hb
      obtain ⟨t, ht, rfl⟩ := List.mem_map.mp ha
      have := hl t ht
      simp only [List.mem_singleton] at hb
      omega
    · intro t ht
      simp only [start_tasks, start_dispatched, List.mem_append, List.mem_singleton,
        List.length_cons] at ht ⊢
      rcases ht with ht | rfl
      · exact Nat.lt_succ_of_lt (hl t ht)
      · exact Nat.lt_succ_self _
  | @advance c j before after t _ at_ _ ih =>
    obtain ⟨hn, hl⟩ := ih
    refine ⟨by simpa [at_] using hn, fun u hu => ?_⟩
    rcases eq_or_mem_others hu with rfl | hu
    · exact hl t (by simp [at_])
    · exact hl u ((others_sublist at_).subset hu)
  | settle _ at_ _ _ ih =>
    obtain ⟨hn, hl⟩ := ih
    exact ⟨hn.sublist ((others_sublist at_).map _),
      fun u hu => hl u ((others_sublist at_).subset hu)⟩

variable {spider : Spider σ} {visited : List String} {world : World σ} {c : Crawl σ} {j : Journal}

theorem Moves.offerAll {hand : List Request} (h : Moves spider visited world c hand j) :
    Moves spider visited world (c.offer spider hand) []
      (j.offered (c.frontier.offersOf spider.config spider.domains hand)) := by
  induction hand generalizing c j with
  | nil => simpa [Crawl.offer, Frontier.offerAll, Frontier.offersOf, Journal.offered] using h
  | cons r rest ih =>
    have hrest := ih (.offer h)
    simpa [Crawl.offer, Frontier.offersOf, Journal.offered] using hrest

theorem Moves.startUpTo {n : Nat} (h : Moves spider visited world c [] j)
    (hn : n ≤ spider.config.slots - c.tasks.length) :
    Moves spider visited world (Crawl.startUpTo n c) [] j := by
  induction n generalizing c with
  | zero => exact h
  | succ n ih =>
    unfold Crawl.startUpTo
    split
    · exact h
    · rename_i r rest next
      refine ih (.start h next (by omega)) ?_
      simp only [start_tasks, List.length_append, List.length_singleton]
      omega

lemma Moves.fill (h : Moves spider visited world c [] j) :
    Moves spider visited world (c.fill spider.config.slots) [] j := h.startUpTo (Nat.le_refl _)

theorem advance_eq {t : Task σ} (at_ : c.task? t.ticket = some t) :
    (c.advance spider t.ticket).2 =
      { c with world := (taskStep spider t.request c.world t.phase).2.2 }.setPhase t.ticket
        (taskStep spider t.request c.world t.phase).1 := by
  simp only [Crawl.advance, at_]

theorem settle_eq {t : Task σ} {outcome : Outcome} (at_ : c.task? t.ticket = some t)
    (ended : t.phase = .ended outcome) :
    c.settle spider t.ticket = (c.remove t.ticket).settleOutcome spider outcome := by
  obtain ⟨ticket, request, phase⟩ := t
  subst ended
  simp only [Crawl.settle, at_]

/-- Every run is a sequence of smallest moves. -/
theorem Run.moves (h : Run spider visited world c j) : Moves spider visited world c [] j := by
  induction h with
  | start => exact (Moves.offerAll .begin_).fill
  | @advance c j t _ at_ busy ih =>
    obtain ⟨before, after, heq, hset, _⟩ := split_at_ticket ih.ticketed.1 at_
    have hstep := Moves.advance ih heq busy
    rw [advance_eq at_]
    convert hstep using 1
    have htasks := hset (taskStep spider t.request c.world t.phase).1
    simp only [setPhase] at htasks ⊢
    rw [htasks]
  | @settle c c' j t outcome _ at_ ended goes ih =>
    obtain ⟨before, after, heq, _, hremove⟩ := split_at_ticket ih.ticketed.1 at_
    rw [settle_eq at_ ended] at goes
    obtain ⟨requests, hfollow, rfl⟩ := Option.map_eq_some_iff.mp goes
    have hleft := (Moves.settle ih heq ended hfollow).offerAll.fill
    simp only [remove] at hremove ⊢
    rw [hfollow, hremove]
    exact hleft

end Crawl

end SiteSpiders

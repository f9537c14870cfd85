import Mathlib.Logic.Relation
import SiteSpiders.Proofs.Crawl.Links

/-!
# What one move does, and where moves lead

A task that goes on changes its own phase and the world. A task that is settled leaves,
some of the requests it leads to enter the queue, and tasks are started for the first of
those that wait. So whether a crawl ends can be read off its settlements: between two of
them tasks only step, and that comes to an end by itself. In particular a crawl ends if
every page leads deeper, however many pages it leads to.
-/
namespace SiteSpiders

variable {σ : Type}

/-- Of the requests that are offered some enter the queue, in order and within the depth. -/
theorem Frontier.offerAll_pending (f : Frontier) (config : Config) (domains : Option (List String))
    (requests : List Request) :
    ∃ entered, entered.Sublist requests ∧ (∀ r ∈ entered, r.depth < config.maxDepth) ∧
      (f.offerAll config domains requests).pending = f.pending ++ entered := by
  induction requests generalizing f with
  | nil => exact ⟨[], .slnil, by simp, by simp [offerAll]⟩
  | cons r rest ih =>
    obtain ⟨entered, hsub, hwithin, hpending⟩ := ih (f.offer config domains r)
    rw [offerAll_cons, hpending]
    cases hadm : f.admits config domains r with
    | false =>
      rw [offer_of_not_admits _ _ _ _ hadm]
      exact ⟨entered, hsub.cons _, hwithin, rfl⟩
    | true =>
      have hdepth : r.depth < config.maxDepth := by
        simp only [admits, Bool.and_eq_true, decide_eq_true_eq] at hadm
        exact hadm.1.1
      rw [offer_of_admits _ _ _ _ hadm, push_pending]
      refine ⟨r :: entered, hsub.cons_cons _, ?_, by simp⟩
      intro q hq
      rcases List.mem_cons.mp hq with rfl | hq
      · exact hdepth
      · exact hwithin q hq

namespace Crawl

variable {spider : Spider σ} {visited : List String} {world : World σ} {c c' : Crawl σ}
  {j : Journal}

/-- Tasks are started for the first of the requests that wait, and nothing else changes. -/
theorem startUpTo_started (n : Nat) (c : Crawl σ) :
    ∃ started : List (Task σ), (∀ t ∈ started, t.phase = .fetching .asking) ∧
      c.frontier.pending = started.map (·.request) ++ (startUpTo n c).frontier.pending ∧
      (startUpTo n c).tasks = c.tasks ++ started ∧
      (startUpTo n c).dispatched = (started.map (·.request)).reverse ++ c.dispatched ∧
      (startUpTo n c).world = c.world := by
  induction n generalizing c with
  | zero => exact ⟨[], by simp [startUpTo]⟩
  | succ n ih =>
    unfold startUpTo
    split
    · exact ⟨[], by simp⟩
    · rename_i r rest next
      obtain ⟨started, hasking, hpending, htasks, hdispatched, hworld⟩ := ih (c.start r rest)
      refine ⟨{ ticket := c.dispatched.length, request := r } :: started, ?_, ?_, ?_, ?_, hworld⟩
      · intro t ht
        rcases List.mem_cons.mp ht with rfl | ht
        · rfl
        · exact hasking t ht
      · simpa [next] using hpending
      · simpa using htasks
      · simpa using hdispatched

/-- A crawl begins in the world it is given, with tasks that have still to ask. -/
theorem begin_started (spider : Spider σ) (visited : List String) (world : World σ) :
    (begin_ spider visited world).world = world ∧
      ∀ t ∈ (begin_ spider visited world).tasks, t.phase = .fetching .asking := by
  obtain ⟨started, hasking, _, htasks, _, hworld⟩ := startUpTo_started
    (spider.config.slots - (({ world, frontier := { visited } } : Crawl σ).offer spider
      spider.startRequests).tasks.length)
    (({ world, frontier := { visited } } : Crawl σ).offer spider spider.startRequests)
  refine ⟨hworld, fun t ht => hasking t ?_⟩
  rw [begin_, fill, htasks] at ht
  exact ht

/-- What the settlement of a task with an outcome makes of a crawl. -/
structure Settlement (spider : Spider σ) (c c' : Crawl σ) (t : Task σ) (outcome : Outcome) where
  before : List (Task σ)
  after : List (Task σ)
  /-- The requests that enter the queue. -/
  entered : List Request
  /-- The tasks that are started then. -/
  started : List (Task σ)
  at_ : c.tasks = before ++ t :: after
  led : entered.Sublist ((followUps? outcome).getD [])
  within : ∀ r ∈ entered, r.depth < spider.config.maxDepth
  asking : ∀ u ∈ started, u.phase = .fetching .asking
  queue : c.frontier.pending ++ entered = started.map (·.request) ++ c'.frontier.pending
  tasks : c'.tasks = before ++ after ++ started
  dispatched : c'.dispatched = (started.map (·.request)).reverse ++ c.dispatched
  world : c'.world = c.world.note (countOutcome outcome)

/-- Settling a task that has ended is a settlement. -/
theorem Run.settlement (run : Run spider visited world c j) {t : Task σ} {outcome : Outcome}
    (at_ : c.task? t.ticket = some t) (ended : t.phase = .ended outcome)
    (goes : c.settle spider t.ticket = some c') : Nonempty (Settlement spider c c' t outcome) := by
  obtain ⟨before, after, heq, _, hremove⟩ := split_at_ticket run.moves.ticketed.1 at_
  rw [settle_eq at_ ended] at goes
  obtain ⟨requests, hfollow, rfl⟩ := Option.map_eq_some_iff.mp goes
  obtain ⟨entered, hsub, hwithin, hpending⟩ :=
    c.frontier.offerAll_pending spider.config spider.domains requests
  obtain ⟨started, hasking, hqueue, htasks, hdispatched, hworld⟩ := startUpTo_started
    (spider.config.slots - (c.remove t.ticket).tasks.length)
    (({ c.remove t.ticket with world := c.world.note (countOutcome outcome) } : Crawl σ).offer
      spider requests)
  simp only [Crawl.offer, remove, hpending] at hqueue
  exact ⟨{
    before, after, entered, started
    at_ := heq
    led := by rw [hfollow]; exact hsub
    within := hwithin
    asking := hasking
    queue := hqueue
    tasks := htasks.trans (congrArg (· ++ started) hremove)
    dispatched := hdispatched
    world := hworld }⟩

/-- Advancing a task changes the world and the phase of the task. -/
theorem Run.advance_split (run : Run spider visited world c j) {t : Task σ}
    (at_ : c.task? t.ticket = some t) :
    ∃ before after, c.tasks = before ++ t :: after ∧ (c.advance spider t.ticket).2 =
      { c with
        world := (taskStep spider t.request c.world t.phase).2.2
        tasks := before ++
          { t with phase := (taskStep spider t.request c.world t.phase).1 } :: after } := by
  obtain ⟨before, after, heq, hset, _⟩ := split_at_ticket run.moves.ticketed.1 at_
  have htasks := hset (taskStep spider t.request c.world t.phase).1
  refine ⟨before, after, heq, ?_⟩
  simp only [setPhase] at htasks
  simp only [advance_eq at_, setPhase, htasks]

/-- A task that left with requests had read a page of its own to the end. -/
theorem Moves.settled_led {hand : List Request} (h : Moves spider visited world c hand j)
    {s : Request × Outcome} (hs : s ∈ j.settled) {r : Request}
    (hr : r ∈ (followUps? s.2).getD []) :
    ∃ p ∈ j.pages, p.request = s.1 ∧ (spider.read p).Rest (.done s.2) := by
  obtain ⟨request, outcome⟩ := s
  have hsourced := h.sourced.2.2.1 _ hs
  cases outcome with
  | proceed requests => exact hsourced
  | _ => simp [followUps?] at hr

/-- A crawl halts if something goes down with every settlement and stays in between. -/
theorem Run.halts_of_settlements {α : Type*} {R : α → α → Prop} (wf : WellFounded R)
    (rank : Crawl σ → α)
    (stays : ∀ {c j} {t : Task σ}, Run spider visited world c j → c.task? t.ticket = some t →
      rank (c.advance spider t.ticket).2 = rank c)
    (drops : ∀ {c c' j} {t : Task σ} {outcome}, Run spider visited world c j →
      c.task? t.ticket = some t → t.phase = .ended outcome →
      c.settle spider t.ticket = some c' → R (rank c') (rank c))
    (run : Run spider visited world c j) : c.Halts spider := by
  -- between settlements the phases and the attempts left go down, as in any crawl
  have all : ∀ m : α × Nat × Nat × Multiset (TaskPhase σ), ∀ c j, Run spider visited world c j →
      (rank c, toDo spider 0 c) = m → c.Halts spider := by
    intro m
    induction m using (WellFounded.prod_lex wf less_wf).induction with
    | h m ih =>
      rintro c j run rfl
      refine .intro c fun c' next => ?_
      obtain ⟨j', run'⟩ := run.next next
      refine ih _ ?_ c' j' run' rfl
      cases next with
      | advance at_ busy =>
        rw [stays run at_]
        exact .right _ (advance_less run 0 at_ busy)
      | settle at_ ended goes => exact .left _ _ (drops run at_ ended goes)
  exact all _ c j run rfl

/-- How much deeper the requests that wait or are in flight may lead. -/
def room (spider : Spider σ) (c : Crawl σ) : Multiset Nat :=
  ↑((c.tasks.map (·.request) ++ c.frontier.pending).map fun r => spider.config.maxDepth - r.depth)

/-- A crawl halts if whatever a task leads to lies deeper than the task. -/
theorem Run.halts_of_deepening
    (deeper : ∀ c j, Run spider visited world c j → ∀ s ∈ j.settled,
      ∀ r ∈ (followUps? s.2).getD [], s.1.depth < r.depth)
    (run : Run spider visited world c j) : c.Halts spider := by
  refine run.halts_of_settlements (wellFounded_lt (α := Nat)).cutExpand (room spider) ?_ ?_
  · intro c j t run at_
    obtain ⟨before, after, heq, hadvance⟩ := run.advance_split at_
    simp [room, hadvance, heq]
  · intro c c' j t outcome run at_ ended goes
    obtain ⟨s⟩ := run.settlement at_ ended goes
    have hdeep : ∀ r ∈ s.entered, t.request.depth < r.depth := by
      intro r hr
      exact deeper _ _ (run.settle at_ ended goes) (t.request, outcome) (by simp) r
        (s.led.subset hr)
    refine ⟨↑(s.entered.map fun r => spider.config.maxDepth - r.depth),
      spider.config.maxDepth - t.request.depth, ?_, ?_⟩
    · intro n hn
      obtain ⟨r, hr, rfl⟩ := List.mem_map.mp (Multiset.mem_coe.mp hn)
      have := hdeep r hr
      have := s.within r hr
      omega
    · -- the queue and the tasks as one list: `t` is out, what entered is in
      have hafter : c'.tasks.map (·.request) ++ c'.frontier.pending =
          (s.before ++ s.after).map (·.request) ++ (c.frontier.pending ++ s.entered) := by
        rw [s.tasks, List.map_append, List.append_assoc, s.queue]
      rw [room, room, hafter, s.at_]
      simp only [List.map_append, List.map_cons, ← Multiset.coe_add, ← Multiset.cons_coe,
        ← Multiset.singleton_add]
      ac_rfl

/-- Whether a crawl is over: no task is in flight and nothing waits, or a task asks to stop. -/
def Over (c : Crawl σ) : Prop :=
  (c.tasks = [] ∧ c.frontier.pending = []) ∨ ∃ t ∈ c.tasks, t.phase = .ended .stop

/-- Whether a crawl ends: no sequence of moves goes on for ever, and wherever moves lead, the crawl
is over or can make another one. -/
structure Ends (spider : Spider σ) (c : Crawl σ) : Prop where
  halts : c.Halts spider
  goes : ∀ c', Relation.ReflTransGen (Next spider) c c' → c'.Over ∨ ∃ c'', Next spider c' c''

/-- A run is never stuck before it is over. -/
theorem Run.over_or_next (run : Run spider visited world c j) :
    c.Over ∨ ∃ c', Next spider c c' := by
  by_cases quiet : c.tasks = []
  · exact Or.inl (Or.inl ⟨quiet, run.idle quiet⟩)
  obtain ⟨t, ht⟩ := List.exists_mem_of_ne_nil c.tasks quiet
  have at_ := task?_of_mem run.moves.ticketed ht
  cases hphase : t.phase with
  | fetching phase => exact Or.inr ⟨_, .advance at_ (by rw [hphase]; rfl)⟩
  | reading rest => exact Or.inr ⟨_, .advance at_ (by rw [hphase]; rfl)⟩
  | ended outcome =>
    cases hfollow : followUps? outcome with
    | some requests =>
      obtain ⟨c', hsettle⟩ := run.settles ht hphase hfollow
      exact Or.inr ⟨c', .settle at_ hphase hsettle⟩
    | none =>
      cases outcome with
      | stop => exact Or.inl (Or.inr ⟨t, ht, hphase⟩)
      | _ => cases hfollow

theorem Run.later (run : Run spider visited world c j)
    (moves : Relation.ReflTransGen (Next spider) c c') : ∃ j', Run spider visited world c' j' := by
  induction moves with
  | refl => exact ⟨j, run⟩
  | tail _ next ih =>
    obtain ⟨j', run'⟩ := ih
    exact run'.next next

theorem Run.reachable (run : Run spider visited world c j) :
    Relation.ReflTransGen (Next spider) (begin_ spider visited world) c := by
  induction run with
  | start => exact .refl
  | advance _ at_ busy ih => exact ih.tail (.advance at_ busy)
  | settle _ at_ ended goes ih => exact ih.tail (.settle at_ ended goes)

theorem Run.ends (run : Run spider visited world c j) (halts : c.Halts spider) : c.Ends spider := by
  refine ⟨halts, fun c' moves => ?_⟩
  obtain ⟨j', run'⟩ := run.later moves
  exact run'.over_or_next

end Crawl

end SiteSpiders

import Mathlib.Logic.Hydra
import SiteSpiders.Proofs.Crawl.Fetches

/-!
# Crawls halt

A crawl that can dispatch boundedly many requests only comes to a halt, in whatever order
its tasks go on and are settled. With every move one of three things goes down while those
before it stay: the requests that may still be dispatched, the attempts left to the
addresses dispatched, and the phases of the tasks in flight. A reading goes on by what it
finds, so its length has no bound; but every way through it ends.
-/
namespace SiteSpiders

open Retry

variable {σ : Type}

/-- Whether a task in one phase is a step beyond another phase, a retry apart. -/
inductive TaskPhase.Beyond : TaskPhase σ → TaskPhase σ → Prop
  | answered (answer : Arrival) : Beyond (.fetching (.arriving answer)) (.fetching .asking)
  | unread (outcome : Outcome) (phase : FetchPhase) : Beyond (.ended outcome) (.fetching phase)
  | opened (rest : Reading σ) (answer : Arrival) :
      Beyond (.reading rest) (.fetching (.arriving answer))
  | acted (effect : Desk σ → Desk σ) (next : Desk σ → Reading σ) (d : Desk σ) :
      Beyond (.reading (next d)) (.reading (.act effect next))
  | counted (what : Count) (rest : Reading σ) :
      Beyond (.reading rest) (.reading (.count what rest))
  | done (outcome : Outcome) : Beyond (.ended outcome) (.reading (.done outcome))

namespace TaskPhase

lemma acc_ended (outcome : Outcome) : Acc Beyond (.ended outcome : TaskPhase σ) :=
  .intro _ fun _ h => by cases h

theorem acc_reading (rest : Reading σ) : Acc Beyond (.reading rest) := by
  induction rest with
  | done outcome =>
    refine .intro _ fun phase h => ?_
    cases h
    exact acc_ended outcome
  | act effect next ih =>
    refine .intro _ fun phase h => ?_
    cases h with
    | acted _ _ d => exact ih d
  | count what rest ih =>
    refine .intro _ fun phase h => ?_
    cases h
    exact ih

/-- A task without retries ends. -/
theorem beyond_wf : WellFounded (Beyond (σ := σ)) := by
  have arriving : ∀ answer : Arrival, Acc (Beyond (σ := σ)) (.fetching (.arriving answer)) := by
    refine fun answer => .intro _ fun phase h => ?_
    cases h with
    | unread outcome => exact acc_ended outcome
    | opened rest => exact acc_reading rest
  refine ⟨fun phase => ?_⟩
  cases phase with
  | ended outcome => exact acc_ended outcome
  | reading rest => exact acc_reading rest
  | fetching phase =>
    cases phase with
    | arriving answer => exact arriving answer
    | asking =>
      refine .intro _ fun phase h => ?_
      cases h with
      | unread outcome => exact acc_ended outcome
      | answered answer => exact arriving answer

end TaskPhase

namespace Crawl

variable {spider : Spider σ} {visited : List String} {world : World σ} {c c' : Crawl σ}
  {j : Journal}

theorem afterFetch_beyond (spider : Spider σ) (result : FetchEnd) (answer : Arrival) :
    (afterFetch spider result).Beyond (.fetching (.arriving answer)) := by
  cases result with
  | failed fault => exact .unread _ _
  | crashed crash => exact .unread _ _
  | response r =>
    simp only [afterFetch]
    split_ifs
    · exact .opened _ _
    · exact .unread _ _

/-- A step of a task brings it to a phase beyond, or takes an attempt from its address. -/
theorem taskStep_beyond (spider : Spider σ) (request : Request) (w : World σ) {phase : TaskPhase σ}
    (busy : phase.isEnded = false) :
    ((taskStep spider request w phase).2.2.counters = w.counters ∧
        (taskStep spider request w phase).1.Beyond phase) ∨
      (taskStep spider request w phase).2.2.counters.left spider.config.retry.categories
          request.url < w.counters.left spider.config.retry.categories request.url := by
  cases phase with
  | ended outcome => cases busy
  | reading rest =>
    refine Or.inl ?_
    cases rest with
    | done outcome => exact ⟨rfl, .done outcome⟩
    | act effect next => exact ⟨rfl, .acted effect next _⟩
    | count what rest => exact ⟨rfl, .counted what rest⟩
  | fetching phase =>
    rw [taskStep_fetching_world, taskStep_fetching_phase]
    cases phase with
    | asking =>
      refine Or.inl ?_
      rw [World.fetchStep_asking]
      cases w.site.reply w.asked request.url with
      | error fault => exact ⟨rfl, .unread _ _⟩
      | ok answer => exact ⟨rfl, .answered answer⟩
    | arriving answer =>
      obtain ⟨stats, hworld, hstep⟩ := w.judge_spec spider.config.retry.categories request answer
      simp only [World.fetchStep, hworld]
      rcases hstep with ⟨category, crash, hsome, _⟩ | ⟨category, delay, hsome, _⟩ | ⟨hnone, _, hend⟩
      · exact Or.inr (consider_some hsome).1
      · exact Or.inr (consider_some hsome).1
      · refine Or.inl ⟨Counters.consider_none _ _ _ _ _ hnone, ?_⟩
        rcases hend with ⟨crash, _, hend⟩ | hend
        · rw [hend]
          exact afterFetch_beyond spider _ answer
        · rw [hend]
          exact afterFetch_beyond spider _ answer

/-- One move of a crawl: a task that has not ended goes on, or one that has is settled. -/
inductive Next (spider : Spider σ) (c : Crawl σ) : Crawl σ → Prop
  | advance {t : Task σ} (at_ : c.task? t.ticket = some t) (busy : t.phase.isEnded = false) :
      Next spider c (c.advance spider t.ticket).2
  | settle {c' : Crawl σ} {t : Task σ} {outcome : Outcome} (at_ : c.task? t.ticket = some t)
      (ended : t.phase = .ended outcome) (goes : c.settle spider t.ticket = some c') :
      Next spider c c'

/-- Whether a crawl comes to a halt, whichever moves it makes. -/
def Halts (spider : Spider σ) (c : Crawl σ) : Prop :=
  Acc (fun after before => Next spider before after) c

theorem Run.next (run : Run spider visited world c j) (next : Next spider c c') :
    ∃ j', Run spider visited world c' j' := by
  cases next with
  | advance at_ busy => exact ⟨_, run.advance at_ busy⟩
  | settle at_ ended goes => exact ⟨_, run.settle at_ ended goes⟩

/-- What goes down with every move, if so many requests are dispatched at most. -/
def toDo (spider : Spider σ) (bound : Nat) (c : Crawl σ) : Nat × Nat × Multiset (TaskPhase σ) :=
  (bound - c.dispatched.length,
    (c.dispatched.map fun r => c.world.counters.left spider.config.retry.categories r.url).sum,
    ↑(c.tasks.map (·.phase)))

/-- The order in which it goes down. -/
def Less : Nat × Nat × Multiset (TaskPhase σ) → Nat × Nat × Multiset (TaskPhase σ) → Prop :=
  Prod.Lex (· < ·) (Prod.Lex (· < ·) (Relation.CutExpand TaskPhase.Beyond))

theorem less_wf : WellFounded (Less (σ := σ)) :=
  WellFounded.prod_lex wellFounded_lt
    (WellFounded.prod_lex wellFounded_lt TaskPhase.beyond_wf.cutExpand)

/-- An attempt taken from a dispatched address lowers what is left to all. -/
theorem sum_left_lt {w w' : World σ} {walk : List (Category × CategoryConfig)} {request : Request}
    {requests : List Request} (hmem : request ∈ requests)
    (hless : w'.counters.left walk request.url < w.counters.left walk request.url)
    (hother : ∀ url : Url, url.text ≠ request.url.text →
      w'.counters.left walk url = w.counters.left walk url) :
    (requests.map fun r => w'.counters.left walk r.url).sum <
      (requests.map fun r => w.counters.left walk r.url).sum := by
  refine List.sum_lt_sum _ _ (fun r _ => ?_) ⟨request, hmem, hless⟩
  by_cases same : r.url.text = request.url.text
  · have hsame : ∀ k : Counters, k.left walk r.url = k.left walk request.url := by
      intro k
      simp only [Counters.left, Counters.usage, same]
    rw [hsame, hsame]
    exact Nat.le_of_lt hless
  · exact Nat.le_of_eq (hother r.url same)

theorem Moves.dispatched_of_task {hand : List Request} (h : Moves spider visited world c hand j)
    {t : Task σ} (ht : t ∈ c.tasks) : t.request ∈ c.dispatched :=
  List.mem_reverse.mp (h.tasks_sublist.subset (List.mem_map_of_mem ht))

/-- Advancing a task leaves less to do. -/
theorem advance_less (run : Run spider visited world c j) (bound : Nat) {t : Task σ}
    (at_ : c.task? t.ticket = some t) (busy : t.phase.isEnded = false) :
    Less (toDo spider bound (c.advance spider t.ticket).2) (toDo spider bound c) := by
  obtain ⟨before, after, heq, hset, _⟩ := split_at_ticket run.moves.ticketed.1 at_
  have htasks := hset (taskStep spider t.request c.world t.phase).1
  simp only [setPhase] at htasks
  have hmem : t.request ∈ c.dispatched := run.moves.dispatched_of_task (by simp [heq])
  simp only [advance_eq at_, toDo, setPhase, htasks]
  refine .right _ ?_
  rcases taskStep_beyond spider t.request c.world busy with ⟨hsame, hbeyond⟩ | hless
  · rw [hsame, heq]
    refine .right _ ?_
    simp only [List.map_append, List.map_cons, ← Multiset.coe_add, ← Multiset.cons_coe,
      ← Multiset.singleton_add]
    exact (Relation.cutExpand_add_left _).mpr (Relation.cutExpand_single_add hbeyond _)
  · exact .left _ _ (sum_left_lt hmem hless fun url => taskStep_left_other _)

theorem startUpTo_cases (n : Nat) (c : Crawl σ) :
    startUpTo n c = c ∨ c.dispatched.length < (startUpTo n c).dispatched.length := by
  induction n generalizing c with
  | zero => exact Or.inl rfl
  | succ n ih =>
    unfold startUpTo
    split
    · exact Or.inl rfl
    · rename_i r rest _
      have hstart : (c.start r rest).dispatched.length = c.dispatched.length + 1 := rfl
      rcases ih (c.start r rest) with hsame | hmore
      · rw [hsame]
        omega
      · omega

/-- Settling a task leaves less to do. -/
theorem settle_less (run : Run spider visited world c j) {bound : Nat} {t : Task σ}
    {outcome : Outcome} (at_ : c.task? t.ticket = some t) (ended : t.phase = .ended outcome)
    (goes : c.settle spider t.ticket = some c') (hle : c'.dispatched.length ≤ bound) :
    Less (toDo spider bound c') (toDo spider bound c) := by
  obtain ⟨before, after, heq, _, hremove⟩ := split_at_ticket run.moves.ticketed.1 at_
  simp only [remove] at hremove
  rw [settle_eq at_ ended] at goes
  obtain ⟨requests, _, rfl⟩ := Option.map_eq_some_iff.mp goes
  simp only [fill, offer, remove, hremove] at hle ⊢
  rcases startUpTo_cases (spider.config.slots - (before ++ after).length)
    { c with
      world := c.world.note (countOutcome outcome)
      frontier := c.frontier.offerAll spider.config spider.domains requests
      tasks := before ++ after } with hsame | hmore
  · rw [hsame]
    refine .right _ (.right _ ?_)
    simp only [heq, List.map_append, List.map_cons, ← Multiset.coe_add, ← Multiset.cons_coe,
      ← Multiset.singleton_add]
    refine (Relation.cutExpand_add_left _).mpr ?_
    exact ⟨0, t.phase, by simp, by rw [add_zero, add_comm]⟩
  · refine .left _ _ ?_
    simp only at hmore
    omega

/-- A run of a spider that dispatches boundedly many requests comes to a halt from wherever it
stands. -/
theorem Run.halts {bound : Nat}
    (bounded : ∀ c j, Run spider visited world c j → c.dispatched.length ≤ bound)
    (run : Run spider visited world c j) : c.Halts spider := by
  have all : ∀ m : Nat × Nat × Multiset (TaskPhase σ), ∀ c j, Run spider visited world c j →
      toDo spider bound c = m → c.Halts spider := by
    intro m
    induction m using less_wf.induction with
    | h m ih =>
      rintro c j run rfl
      refine .intro c fun c' next => ?_
      obtain ⟨j', run'⟩ := run.next next
      refine ih _ ?_ c' j' run' rfl
      cases next with
      | advance at_ busy => exact advance_less run bound at_ busy
      | settle at_ ended goes => exact settle_less run at_ ended goes (bounded _ _ run')
  exact all _ c j run rfl

end Crawl

end SiteSpiders

import Mathlib.Data.List.Forall2
import SiteSpiders.Proofs.Crawl.Pages
import SiteSpiders.Proofs.Crawl.Visits
import SiteSpiders.Proofs.Retry.Budget

/-!
# Runs end

Without revisits a run whose pages are read in bounded time makes boundedly many moves.
A task can be charged in advance: two steps for every attempt that the retry budget of
its address allows, the steps of its reading, and its settlement. What has been moved
and what is still charged never exceed the charges of the dispatched requests.
-/
namespace SiteSpiders

variable {σ : Type}

/-- Whether a reading ends within so many steps, whatever it finds. -/
inductive Reading.Within : Nat → Reading σ → Prop
  | done {n : Nat} {outcome : Outcome} : Within (n + 1) (.done outcome)
  | act {n : Nat} {effect : Desk σ → Desk σ} {next : Desk σ → Reading σ}
      (h : ∀ d, Within n (next d)) : Within (n + 1) (.act effect next)
  | count {n : Nat} {what : Count} {rest : Reading σ} (h : Within n rest) :
      Within (n + 1) (.count what rest)

namespace World

variable (walk : List (Retry.Category × Retry.CategoryConfig)) (request : Request)

theorem judge_counters (w : World σ) (answer : Arrival) :
    (w.judge walk request answer).2.counters =
      (w.counters.consider walk request.url answer.status answer.body).2 := by
  unfold judge
  dsimp only
  split
  · rfl
  · rfl
  · split
    · rename_i heq
      have h := congrArg (fun x => x.2.counters) heq
      exact h.symm
    · rename_i heq
      have h := congrArg (fun x => x.2.counters) heq
      exact h.symm

/-- A judged answer that is asked for anew was decided to be retried. -/
theorem judge_pause (w : World σ) (answer : Arrival) {phase : FetchPhase} {time : Retry.Duration}
    (h : (w.judge walk request answer).1 = .pause phase time) :
    phase = .asking ∧
      (w.judge walk request answer).2.counters.left walk request.url <
        w.counters.left walk request.url := by
  rw [judge_counters]
  unfold judge at h
  dsimp only at h
  split at h
  · cases h
  · rename_i hsome
    cases h
    exact ⟨rfl, (Retry.consider_some hsome).1⟩
  · split at h <;> cases h

theorem fetchStep_left_other (w : World σ) (phase : FetchPhase) {other : Url}
    (h : other.text ≠ request.url.text) :
    (w.fetchStep walk request phase).2.counters.left walk other = w.counters.left walk other := by
  cases phase with
  | asking =>
    rw [fetchStep_asking]
    cases w.site.reply w.asked request.url <;> rfl
  | arriving answer =>
    simp only [fetchStep]
    rw [judge_counters]
    exact Retry.consider_left_other h

end World

namespace Crawl

variable {spider : Spider σ}

theorem forall₂_append_right {α β : Type} {R : α → β → Prop} {l : List α} {l₁ l₂ : List β}
    (h : List.Forall₂ R l (l₁ ++ l₂)) :
    ∃ a b, l = a ++ b ∧ List.Forall₂ R a l₁ ∧ List.Forall₂ R b l₂ :=
  ⟨_, _, (List.take_append_drop l₁.length l).symm, List.forall₂_take_append _ _ _ h,
    List.forall₂_drop_append _ _ _ h⟩

/-- Whether a task of a request is over and settled within so many moves, if its page is read in
`reads` steps. -/
def EndsWithin (spider : Spider σ) (reads : Request → Nat) (w : World σ) (request : Request)
    (n : Nat) : TaskPhase σ → Prop
  | .fetching .asking =>
    2 * w.counters.left spider.config.retry.categories request.url + reads request + 3 ≤ n
  | .fetching (.arriving _) =>
    2 * w.counters.left spider.config.retry.categories request.url + reads request + 2 ≤ n
  | .reading rest => ∃ m, rest.Within m ∧ m + 1 ≤ n
  | .ended _ => 1 ≤ n

/-- The moves that a request can take altogether. -/
def charge (spider : Spider σ) (reads : Request → Nat) (request : Request) : Nat :=
  2 * (spider.config.retry.categories.map fun c => c.2.maxRetries).sum + reads request + 3

variable {reads : Request → Nat} {w : World σ} {request : Request}

theorem endsWithin_new (spider : Spider σ) (reads : Request → Nat) (w : World σ)
    (request : Request) :
    EndsWithin spider reads w request (charge spider reads request) (.fetching .asking) := by
  have h := (w.counters.usage request.url).left_le spider.config.retry.categories
  simp only [EndsWithin, charge, Retry.Counters.left]
  omega

theorem endsWithin_pos {n : Nat} {phase : TaskPhase σ}
    (h : EndsWithin spider reads w request n phase) : 1 ≤ n := by
  cases phase with
  | fetching phase => cases phase <;> simp only [EndsWithin] at h <;> omega
  | reading rest =>
    obtain ⟨m, _, hm⟩ := h
    omega
  | ended outcome => exact h

/-- Only the budget of its own address matters to a task. -/
theorem EndsWithin.congr {w' : World σ} {n : Nat} {phase : TaskPhase σ}
    (same : w'.counters.left spider.config.retry.categories request.url =
      w.counters.left spider.config.retry.categories request.url)
    (h : EndsWithin spider reads w request n phase) :
    EndsWithin spider reads w' request n phase := by
  cases phase with
  | fetching phase => cases phase <;> simpa only [EndsWithin, same] using h
  | reading rest => exact h
  | ended outcome => exact h

theorem readStep_within {n : Nat} {rest : Reading σ}
    (h : EndsWithin spider reads w request (n + 1) (.reading rest)) (w' : World σ) :
    EndsWithin spider reads w' request n (readStep rest w).1 := by
  obtain ⟨m, hwithin, hm⟩ := h
  cases hwithin with
  | @done k outcome =>
    simp only [readStep, EndsWithin]
    omega
  | act hnext => exact ⟨_, hnext _, by omega⟩
  | count hrest => exact ⟨_, hrest, by omega⟩

/-- A step of a task takes one from its bound. -/
theorem taskStep_within {site : Site} {pages : List Response} {n : Nat} {t : Task σ}
    (bounded : ∀ p : Response, p.FetchedFor spider site → (spider.read p).Within (reads p.request))
    (hsite : w.site = site) (sourced : PhaseSourced spider site pages t.request t.phase)
    (busy : t.phase.isEnded = false)
    (h : EndsWithin spider reads w t.request (n + 1) t.phase) :
    EndsWithin spider reads (taskStep spider t.request w t.phase).2.2 t.request n
      (taskStep spider t.request w t.phase).1 := by
  have hnew := (taskStep_sourced hsite sourced).2
  obtain ⟨ticket, request, phase⟩ := t
  cases phase with
  | ended outcome => simp [TaskPhase.isEnded] at busy
  | reading rest => exact readStep_within h _
  | fetching phase =>
    have hn : 2 ≤ n + 1 := by cases phase <;> simp only [EndsWithin] at h <;> omega
    cases phase with
    | asking =>
      simp only [EndsWithin] at h
      simp only [taskStep, World.fetchStep_asking]
      cases w.site.reply w.asked request.url with
      | error fault =>
        simp only [afterFetch, EndsWithin]
        omega
      | ok answer =>
        simp only [EndsWithin]
        omega
    | arriving answer =>
      simp only [EndsWithin] at h
      simp only [taskStep_fetching_world, taskStep_fetching_phase, World.fetchStep]
      rcases w.judge_cases spider.config.retry.categories request answer with
        ⟨crash, hstep⟩ | ⟨time, hstep⟩ | ⟨r, hstep, _⟩
      · simp only [hstep, afterFetch, EndsWithin]
        omega
      · obtain ⟨_, hlt⟩ := w.judge_pause _ _ _ hstep
        simp only [hstep, EndsWithin]
        omega
      · simp only [hstep, afterFetch]
        split_ifs with hacc
        · have hdelivered : delivery? spider w ⟨ticket, request, .fetching (.arriving answer)⟩ =
              some r := by
            simp [delivery?, World.fetchStep, hstep, hacc]
          obtain ⟨hfetched, hreq⟩ := hnew r (by simp [hdelivered])
          have hreads : reads r.request = reads request := congrArg reads hreq
          exact ⟨_, bounded r hfetched, by omega⟩
        · simp only [EndsWithin]
          omega

theorem taskStep_left_other (phase : TaskPhase σ) {other : Url}
    (h : other.text ≠ request.url.text) :
    (taskStep spider request w phase).2.2.counters.left spider.config.retry.categories other =
      w.counters.left spider.config.retry.categories other := by
  cases phase with
  | ended outcome => rfl
  | reading rest => cases rest <;> rfl
  | fetching phase =>
    rw [taskStep_fetching_world]
    exact w.fetchStep_left_other _ _ phase h

variable {visited : List String} {world : World σ} {c : Crawl σ} {hand : List Request}
  {j : Journal}

/-- The addresses of other tasks differ from that of a task. -/
theorem Moves.other_text (once : spider.config.revisit = false)
    (h : Moves spider visited world c hand j) {before after : List (Task σ)} {t u : Task σ}
    (at_ : c.tasks = before ++ t :: after) (hu : u ∈ before ++ after) :
    u.request.url.text ≠ t.request.url.text := by
  have hsub := (h.inFlight_sublist.map (·.url.text))
  have hnodup := (h.admitted_nodup once).1.sublist hsub
  rw [List.map_append, List.map_map] at hnodup
  have htasks := (List.nodup_append.mp hnodup).1
  rw [at_, List.map_append, List.map_cons, List.nodup_middle, List.nodup_cons] at htasks
  intro heq
  refine htasks.1 ?_
  rw [← List.map_append]
  exact List.mem_map.mpr ⟨u, hu, heq⟩

/-- The moves made and those that the tasks in flight can still take are within the charges of the
dispatched requests. -/
theorem Moves.within (once : spider.config.revisit = false)
    (bounded : ∀ p : Response, p.FetchedFor spider world.site →
      (spider.read p).Within (reads p.request))
    (h : Moves spider visited world c hand j) :
    ∃ ns, List.Forall₂ (fun n (t : Task σ) => EndsWithin spider reads c.world t.request n t.phase)
        ns c.tasks ∧
      j.moves + ns.sum ≤ (c.dispatched.map (charge spider reads)).sum := by
  induction h with
  | begin_ => exact ⟨[], .nil, by simp⟩
  | offer _ ih => exact ih
  | @start c r rest j _ _ _ ih =>
    obtain ⟨ns, hns, hsum⟩ := ih
    refine ⟨ns ++ [charge spider reads r], ?_, ?_⟩
    · exact List.rel_append hns (.cons (endsWithin_new spider reads c.world r) .nil)
    · simp only [start_dispatched, List.map_cons, List.sum_cons, List.sum_append, List.sum_nil]
      omega
  | @advance c j before after t moves at_ busy ih =>
    obtain ⟨ns, hns, hsum⟩ := ih
    rw [at_] at hns
    obtain ⟨nb, na', rfl, hb, ha'⟩ := forall₂_append_right hns
    obtain ⟨n, na, ht, ha, rfl⟩ := List.forall₂_cons_right_iff.mp ha'
    have hpos := endsWithin_pos ht
    obtain ⟨n, rfl⟩ := Nat.exists_eq_add_of_le' hpos
    have hsourced := moves.sourced
    have hother : ∀ {ns : List Nat} {l : List (Task σ)}, (∀ u ∈ l, u ∈ before ++ after) →
        List.Forall₂ (fun n (u : Task σ) => EndsWithin spider reads c.world u.request n u.phase)
          ns l →
        List.Forall₂ (fun n (u : Task σ) => EndsWithin spider reads
          (taskStep spider t.request c.world t.phase).2.2 u.request n u.phase) ns l := by
      intro ns l hl hns
      induction hns with
      | nil => exact .nil
      | cons hn _ ih =>
        have hne := moves.other_text once at_ (hl _ List.mem_cons_self)
        exact .cons (EndsWithin.congr (taskStep_left_other _ hne) hn)
          (ih fun u hu => hl u (List.mem_cons_of_mem _ hu))
    have ht' := taskStep_within bounded hsourced.1 (hsourced.2.1 t (by simp [at_])) busy ht
    refine ⟨nb ++ n :: na, ?_, ?_⟩
    · exact List.rel_append (hother (fun u => List.mem_append_left _) hb)
        (.cons ht' (hother (fun u => List.mem_append_right _) ha))
    · simp only [List.sum_append, List.sum_cons, Journal.advanced] at hsum ⊢
      omega
  | @settle c j before after t outcome requests _ at_ ended _ ih =>
    obtain ⟨ns, hns, hsum⟩ := ih
    rw [at_] at hns
    obtain ⟨nb, na', rfl, hb, ha'⟩ := forall₂_append_right hns
    obtain ⟨n, na, ht, ha, rfl⟩ := List.forall₂_cons_right_iff.mp ha'
    have hpos := endsWithin_pos ht
    refine ⟨nb ++ na, List.rel_append hb ha, ?_⟩
    simp only [List.sum_append, List.sum_cons, Journal.left] at hsum ⊢
    omega

/-- A run makes no more moves than its dispatched requests are charged with. -/
theorem Moves.moves_le (once : spider.config.revisit = false)
    (bounded : ∀ p : Response, p.FetchedFor spider world.site →
      (spider.read p).Within (reads p.request))
    (h : Moves spider visited world c hand j) :
    j.moves ≤ (c.dispatched.map (charge spider reads)).sum := by
  obtain ⟨ns, _, hsum⟩ := h.within once bounded
  omega

theorem task?_of_mem (ticketed : c.Ticketed) {t : Task σ} (ht : t ∈ c.tasks) :
    c.task? t.ticket = some t := by
  unfold Crawl.task?
  cases hfind : c.tasks.find? fun u => u.ticket == t.ticket with
  | none =>
    have hnone := List.find?_eq_none.mp hfind t ht
    simp at hnone
  | some u =>
    have hticket : u.ticket = t.ticket := by simpa using List.find?_some hfind
    rw [List.inj_on_of_nodup_map ticketed.1 (List.mem_of_find?_eq_some hfind) ht hticket]

theorem Run.settles (h : Run spider visited world c j) {t : Task σ} {outcome : Outcome}
    (ht : t ∈ c.tasks) (ended : t.phase = .ended outcome) {requests : List Request}
    (goes : followUps? outcome = some requests) : ∃ c', c.settle spider t.ticket = some c' := by
  rw [settle_eq (task?_of_mem h.moves.ticketed ht) ended, settleOutcome, goes]
  exact ⟨_, rfl⟩

/-- If no task stops the run and moves are bounded, some run comes to its end. -/
theorem Run.exists_over {bound : Nat}
    (bounded : ∀ c j, Run spider visited world c j → j.moves ≤ bound)
    (goes : ∀ c j, Run spider visited world c j → ∀ t ∈ c.tasks, ∀ outcome,
      t.phase = .ended outcome → ∃ requests, followUps? outcome = some requests) :
    ∃ c j, Run spider visited world c j ∧ c.tasks = [] := by
  by_contra none
  have far : ∀ n, ∃ c j, Run spider visited world c j ∧ j.moves = n := by
    intro n
    induction n with
    | zero => exact ⟨_, _, .start, rfl⟩
    | succ n ih =>
      obtain ⟨c, j, run, rfl⟩ := ih
      obtain ⟨t, ht⟩ := List.exists_mem_of_ne_nil c.tasks fun quiet => none ⟨c, j, run, quiet⟩
      have hfind := task?_of_mem run.moves.ticketed ht
      cases hphase : t.phase with
      | fetching phase => exact ⟨_, _, run.advance hfind (by rw [hphase]; rfl), rfl⟩
      | reading rest => exact ⟨_, _, run.advance hfind (by rw [hphase]; rfl), rfl⟩
      | ended outcome =>
        obtain ⟨requests, hrequests⟩ := goes c j run t ht outcome hphase
        obtain ⟨c', hsettle⟩ := run.settles ht hphase hrequests
        exact ⟨_, _, run.settle hfind hphase hsettle, rfl⟩
  obtain ⟨c, j, run, hmoves⟩ := far (bound + 1)
  have hle := bounded c j run
  omega

end Crawl

end SiteSpiders

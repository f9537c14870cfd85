import SiteSpiders.Proofs.Crawl.Fetches
import SiteSpiders.Proofs.Crawl.Progress

/-!
# The accounts of a run

Readings and settlements keep counts that fetches leave alone. A reading counts in steps
of its own, side by side with others, so while a run is under way a count lags behind what
the pages are due. The difference is what the tasks in flight owe: what is counted and
what is owed add up to what was counted at first and what the pages read since are due.
-/
namespace SiteSpiders

variable {σ : Type}

/-- The counts that readings and settlements keep: parse errors, storage errors, items stored and
duplicates skipped. -/
def Stats.Tally.kept {α : Type} (t : Stats.Tally α) : Nat × Nat × Nat × Nat :=
  (t.parseErrors, t.storageErrors, t.itemsStored, t.duplicatesSkipped)

theorem recordRequest_kept (k : Stats.Arithmetic Number.Floating) (s : Stats) (status size : Nat)
    (millis : Int) : (s.recordRequest k status size millis).2.kept = s.kept := by
  unfold Stats.Tally.recordRequest
  dsimp only
  split <;> rfl

/-- A fetch leaves the counts of readings and settlements. -/
theorem World.fetchStep_kept (w : World σ)
    (walk : List (Retry.Category × Retry.CategoryConfig)) (request : Request)
    (phase : FetchPhase) :
    (w.fetchStep walk request phase).2.desk.stats.kept = w.desk.stats.kept := by
  cases phase with
  | asking =>
    rw [fetchStep_asking]
    cases w.site.reply w.asked request.url <;> rfl
  | arriving answer =>
    obtain ⟨stats, hworld, hstep⟩ := w.judge_spec walk request answer
    simp only [fetchStep, hworld]
    rcases hstep with ⟨_, _, _, _, rfl⟩ | ⟨_, _, _, _, rfl⟩ | ⟨_, rfl, _⟩
    · rfl
    · rfl
    · exact recordRequest_kept _ _ _ _ _

namespace Crawl

variable {spider : Spider σ} {visited : List String} {world : World σ} {c : Crawl σ} {j : Journal}

/-- A step of a fetch hands a page to the spider, or goes on, or ends without one and leads
nowhere. -/
theorem taskStep_delivers (spider : Spider σ) (w : World σ) {t : Task σ} {phase : FetchPhase}
    (at_ : t.phase = .fetching phase) :
    (∃ p, delivery? spider w t = some p ∧
        (taskStep spider t.request w t.phase).1 = .reading (spider.read p)) ∨
      delivery? spider w t = none ∧
        ((∃ phase', (taskStep spider t.request w t.phase).1 = .fetching phase') ∨
          ∃ outcome, (taskStep spider t.request w t.phase).1 = .ended outcome ∧
            followUps? outcome = some []) := by
  simp only [at_, taskStep_fetching_phase, delivery?]
  rcases (w.fetchStep spider.config.retry.categories t.request phase).1 with
    ⟨phase', time⟩ | result
  · exact Or.inr ⟨rfl, Or.inl ⟨phase', rfl⟩⟩
  · cases result with
    | failed fault => exact Or.inr ⟨rfl, Or.inr ⟨_, rfl, rfl⟩⟩
    | crashed crash => exact Or.inr ⟨rfl, Or.inr ⟨_, rfl, rfl⟩⟩
    | response p =>
      cases haccepts : spider.config.accepts p.status with
      | true => exact Or.inl ⟨p, by simp [haccepts], by simp [afterFetch, haccepts]⟩
      | false =>
        exact Or.inr ⟨by simp [haccepts], Or.inr ⟨.skip, by simp [afterFetch, haccepts], rfl⟩⟩

/-- Tasks that were started stand alike. -/
theorem forall₂_started {α : Type*} {Stands : TaskPhase σ → α → Prop} {a : α}
    {started : List (Task σ)} (new : Stands (.fetching .asking) a)
    (asking : ∀ t ∈ started, t.phase = .fetching .asking) :
    List.Forall₂ (fun x (t : Task σ) => Stands t.phase x) (started.map fun _ => a) started := by
  refine List.forall₂_map_left_iff.mpr (List.forall₂_same.mpr fun t ht => ?_)
  rw [asking t ht]
  exact new

/-- A count is balanced over a run, if a task that is started owes nothing to it, every step counts
what the task owes less then, a page that is handed over adds what it is due, and the task that
leaves has what it owes counted. -/
theorem Run.balance (count : World σ → Nat) (Owes : TaskPhase σ → Nat → Prop)
    (due : Response → Nat) (new : Owes (.fetching .asking) 0)
    (step : ∀ {c' j' t n}, Run spider visited world c' j' →
      j'.pages ++ (delivery? spider c'.world t).toList ⊆ j.pages → t ∈ c'.tasks →
      t.phase.isEnded = false → Owes t.phase n →
      ∃ n', Owes (taskStep spider t.request c'.world t.phase).1 n' ∧
        count (taskStep spider t.request c'.world t.phase).2.2 + n' =
          count c'.world + n + ((delivery? spider c'.world t).toList.map due).sum)
    (leave : ∀ {w : World σ} {outcome n}, Owes (.ended outcome) n →
      count (w.note (countOutcome outcome)) = count w + n)
    (run : Run spider visited world c j) :
    ∃ ns, List.Forall₂ (fun n (t : Task σ) => Owes t.phase n) ns c.tasks ∧
      count c.world + ns.sum = count world + (j.pages.map due).sum := by
  -- the pages of every earlier point of the run are pages of the run
  have earlier : ∀ {c' j'}, Run spider visited world c' j' → j'.pages ⊆ j.pages →
      ∃ ns, List.Forall₂ (fun n (t : Task σ) => Owes t.phase n) ns c'.tasks ∧
        count c'.world + ns.sum = count world + (j'.pages.map due).sum := by
    intro c' j' run'
    induction run' with
    | start =>
      intro _
      obtain ⟨hworld, hasking⟩ := begin_started spider visited world
      exact ⟨_, forall₂_started new hasking, by simp [hworld, Journal.offered]⟩
    | @advance c' j' t run' at_ busy ih =>
      intro past
      obtain ⟨ns, hns, hsum⟩ := ih fun p hp => past (List.mem_append_left _ hp)
      obtain ⟨before, after, heq, hadvance⟩ := run'.advance_split at_
      rw [heq] at hns
      obtain ⟨nb, na', rfl, hb, ha'⟩ := forall₂_append_right hns
      obtain ⟨n, na, ht, ha, rfl⟩ := List.forall₂_cons_right_iff.mp ha'
      obtain ⟨n', ht', hstep⟩ := step run' past (by simp [heq]) busy ht
      rw [hadvance]
      refine ⟨nb ++ n' :: na, List.rel_append hb (.cons ht' ha), ?_⟩
      simp only [List.sum_append, List.sum_cons, Journal.advanced, List.map_append] at hsum ⊢
      omega
    | @settle c' c'' j' t outcome run' at_ ended goes ih =>
      intro past
      obtain ⟨ns, hns, hsum⟩ := ih past
      obtain ⟨s⟩ := run'.settlement at_ ended goes
      rw [s.at_] at hns
      obtain ⟨nb, na', rfl, hb, ha'⟩ := forall₂_append_right hns
      obtain ⟨n, na, ht, ha, rfl⟩ := List.forall₂_cons_right_iff.mp ha'
      rw [ended] at ht
      have hleave := leave (w := c'.world) ht
      rw [s.tasks, s.world]
      refine ⟨nb ++ na ++ s.started.map fun _ => 0,
        List.rel_append (List.rel_append hb ha) (forall₂_started new s.asking), ?_⟩
      simp only [List.sum_append, List.sum_cons, List.map_const', List.sum_replicate, smul_zero,
        Journal.left, Journal.offered] at hsum ⊢
      omega
  exact earlier run (List.Subset.refl _)

/-- What no step and no settlement changes stays over a run. -/
theorem Run.constant {α : Type*} (view : World σ → α)
    (step : ∀ {c' j' t}, Run spider visited world c' j' →
      j'.pages ++ (delivery? spider c'.world t).toList ⊆ j.pages → t ∈ c'.tasks →
      t.phase.isEnded = false →
      view (taskStep spider t.request c'.world t.phase).2.2 = view c'.world)
    (leave : ∀ {c' j' t outcome}, Run spider visited world c' j' → t ∈ c'.tasks →
      t.phase = .ended outcome → view (c'.world.note (countOutcome outcome)) = view c'.world)
    (run : Run spider visited world c j) : view c.world = view world := by
  have earlier : ∀ {c' j'}, Run spider visited world c' j' → j'.pages ⊆ j.pages →
      view c'.world = view world := by
    intro c' j' run'
    induction run' with
    | start => exact fun _ => congrArg view (begin_started spider visited world).1
    | @advance c' j' t run' at_ busy ih =>
      intro past
      obtain ⟨before, after, heq, hadvance⟩ := run'.advance_split at_
      rw [hadvance]
      exact (step run' past (by simp [heq]) busy).trans
        (ih fun p hp => past (List.mem_append_left _ hp))
    | @settle c' c'' j' t outcome run' at_ ended goes ih =>
      intro past
      obtain ⟨s⟩ := run'.settlement at_ ended goes
      rw [s.world]
      exact (leave run' (by simp [s.at_]) ended).trans (ih past)
  exact earlier run (List.Subset.refl _)

end Crawl

end SiteSpiders

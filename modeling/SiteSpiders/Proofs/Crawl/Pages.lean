import SiteSpiders.Proofs.Crawl.Dispatch

/-!
# The pages of a run

Every page handed to a spider was answered by the site with a status the spider accepts,
every task reads what is left of its own page, and every request comes from the start
or from what a page led to. On a site that always answers, the addresses fetched are
those of the requests dispatched, but for tasks that have still to ask.
-/
namespace SiteSpiders

variable {σ : Type}

namespace World

/-- What a fetch leaves alone: the site, the store and the count of stored items. -/
structure Spares (w w' : World σ) : Prop where
  site : w'.site = w.site
  store : w'.desk.store = w.desk.store
  items : w'.desk.stats.itemsStored = w.desk.stats.itemsStored

theorem note_spares (w : World σ) {f : Stats → Stats}
    (h : (f w.desk.stats).itemsStored = w.desk.stats.itemsStored) : w.Spares (w.note f) :=
  ⟨rfl, rfl, h⟩

theorem recordRequest_items (k : Stats.Arithmetic Number.Floating) (s : Stats) (status size : Nat)
    (millis : Int) :
    (Stats.Tally.recordRequest k s status size millis).2.itemsStored = s.itemsStored := by
  unfold Stats.Tally.recordRequest
  dsimp only
  split <;> rfl

theorem countResponse_spares (w : World σ) (answer : Arrival) :
    w.Spares (w.countResponse answer).2 :=
  w.note_spares (recordRequest_items _ _ _ _ _)

variable (walk : List (Retry.Category × Retry.CategoryConfig)) (request : Request)

theorem judge_spares (w : World σ) (answer : Arrival) :
    w.Spares (w.judge walk request answer).2 := by
  unfold judge
  dsimp only
  split
  · exact ⟨rfl, rfl, rfl⟩
  · exact ⟨rfl, rfl, rfl⟩
  · have h := countResponse_spares
      { w with counters := (w.counters.consider walk request.url answer.status answer.body).2 }
      answer
    split
    · rename_i heq
      rw [heq] at h
      exact ⟨h.site, h.store, h.items⟩
    · rename_i heq
      rw [heq] at h
      exact ⟨h.site, h.store, h.items⟩

/-- A judged answer is kept as it came or asked for anew. -/
theorem judge_cases (w : World σ) (answer : Arrival) :
    (∃ crash, (w.judge walk request answer).1 = .over (.crashed crash)) ∨
      (∃ time, (w.judge walk request answer).1 = .pause .asking time) ∨
      ∃ r : Response, (w.judge walk request answer).1 = .over (.response r) ∧
        r.url = answer.url ∧ r.status = answer.status ∧ r.body = answer.body ∧
        r.request = request := by
  unfold judge
  dsimp only
  split
  · exact Or.inl ⟨_, rfl⟩
  · exact Or.inr (Or.inl ⟨_, rfl⟩)
  · split
    · exact Or.inl ⟨_, rfl⟩
    · exact Or.inr (Or.inr ⟨_, rfl, rfl, rfl, rfl, rfl⟩)

/-- Asking the site, case by case. -/
theorem fetchStep_asking (w : World σ) :
    w.fetchStep walk request .asking =
      match w.site.reply w.asked request.url with
      | .error fault => (.over (.failed fault),
          ({ w with asked := request.url :: w.asked } : World σ).note fun s => s.recordFailure)
      | .ok answer => (.pause (.arriving answer) (answer.delay.getD .zero),
          { w with asked := request.url :: w.asked, fetched := request.url :: w.fetched }) := by
  simp only [fetchStep, exchange]
  cases w.site.reply w.asked request.url <;> rfl

theorem fetchStep_spares (w : World σ) (phase : FetchPhase) :
    w.Spares (w.fetchStep walk request phase).2 := by
  cases phase with
  | asking =>
    rw [fetchStep_asking]
    cases w.site.reply w.asked request.url <;> exact ⟨rfl, rfl, rfl⟩
  | arriving answer => exact judge_spares walk request w answer

end World

/-- What is left of a reading after some of its steps. -/
inductive Reading.Rest (whole : Reading σ) : Reading σ → Prop
  | refl : Rest whole whole
  | act {effect : Desk σ → Desk σ} {next : Desk σ → Reading σ} (d : Desk σ)
      (h : Rest whole (.act effect next)) : Rest whole (next d)
  | count {what : Count} {rest : Reading σ} (h : Rest whole (.count what rest)) : Rest whole rest

/-- Whether a page came from a site with a status that a spider accepts. -/
def Response.FetchedFor (p : Response) (spider : Spider σ) (site : Site) : Prop :=
  spider.config.accepts p.status = true ∧
    ∃ earlier answer, site.reply earlier p.request.url = .ok answer ∧ answer.url = p.url ∧
      answer.status = p.status ∧ answer.body = p.body

namespace Crawl

/-- Where a task can stand, given the pages read so far: an answer on its way is one of the site,
and what is being read or was read is a page of the task's own request. -/
def PhaseSourced (spider : Spider σ) (site : Site) (pages : List Response) (request : Request) :
    TaskPhase σ → Prop
  | .fetching .asking => True
  | .fetching (.arriving answer) => ∃ earlier, site.reply earlier request.url = .ok answer
  | .reading rest => ∃ p ∈ pages, p.request = request ∧ (spider.read p).Rest rest
  | .ended (.proceed requests) =>
    ∃ p ∈ pages, p.request = request ∧ (spider.read p).Rest (.done (.proceed requests))
  | .ended _ => True

variable {spider : Spider σ} {site : Site} {pages : List Response} {request : Request}

theorem PhaseSourced.mono {phase : TaskPhase σ} (h : PhaseSourced spider site pages request phase)
    (more : List Response) : PhaseSourced spider site (pages ++ more) request phase := by
  have grow : ∀ {Q : Response → Prop}, (∃ p ∈ pages, Q p) → ∃ p ∈ pages ++ more, Q p := by
    rintro Q ⟨p, hp, hq⟩
    exact ⟨p, List.mem_append_left _ hp, hq⟩
  cases phase with
  | fetching phase => cases phase <;> exact h
  | reading rest => exact grow h
  | ended outcome =>
    cases outcome with
    | proceed requests => exact grow h
    | _ => trivial

theorem readStep_sourced {rest : Reading σ} (w : World σ)
    (h : PhaseSourced spider site pages request (.reading rest)) :
    PhaseSourced spider site pages request (readStep rest w).1 := by
  obtain ⟨p, hp, hreq, hrest⟩ := h
  cases rest with
  | done outcome =>
    cases outcome with
    | proceed requests => exact ⟨p, hp, hreq, hrest⟩
    | _ => trivial
  | act effect next => exact ⟨p, hp, hreq, .act _ hrest⟩
  | count what rest => exact ⟨p, hp, hreq, .count hrest⟩

/-- A step of a task keeps it sourced, by the page that it may hand to the spider. That page came
from the site. -/
theorem taskStep_sourced {t : Task σ} {w : World σ} (hsite : w.site = site)
    (h : PhaseSourced spider site pages t.request t.phase) :
    PhaseSourced spider site (pages ++ (delivery? spider w t).toList) t.request
        (taskStep spider t.request w t.phase).1 ∧
      ∀ p ∈ delivery? spider w t, p.FetchedFor spider site ∧ p.request = t.request := by
  obtain ⟨ticket, request, phase⟩ := t
  cases phase with
  | ended outcome => exact ⟨h.mono _, by simp [delivery?]⟩
  | reading rest => exact ⟨(readStep_sourced w h).mono _, by simp [delivery?]⟩
  | fetching phase =>
    cases phase with
    | asking =>
      simp only [taskStep, delivery?, World.fetchStep_asking]
      cases hreply : w.site.reply w.asked request.url with
      | error fault => simp [afterFetch, PhaseSourced]
      | ok answer => simpa [PhaseSourced] using ⟨w.asked, hsite ▸ hreply⟩
    | arriving answer =>
      obtain ⟨earlier, hreply⟩ := h
      simp only [taskStep, delivery?, World.fetchStep]
      rcases hjudge : w.judge spider.config.retry.categories request answer with ⟨step, w'⟩
      have hcases := w.judge_cases spider.config.retry.categories request answer
      rw [hjudge] at hcases
      rcases hcases with ⟨crash, rfl⟩ | ⟨time, rfl⟩ | ⟨r, rfl, hurl, hstatus, hbody, hreq⟩
      · simp [afterFetch, PhaseSourced]
      · simp [PhaseSourced]
      · cases hacc : spider.config.accepts r.status with
        | false => simp [afterFetch, hacc, PhaseSourced]
        | true =>
          have hfetched : r.FetchedFor spider site :=
            ⟨hacc, earlier, answer, hreq ▸ hreply, hurl.symm, hstatus.symm, hbody.symm⟩
          simp only [afterFetch, hacc, if_true, PhaseSourced, Option.toList_some]
          exact ⟨⟨r, by simp, hreq, .refl⟩, by simp [hfetched, hreq]⟩

theorem taskStep_fetching_world (w : World σ) (phase : FetchPhase) :
    (taskStep spider request w (.fetching phase)).2.2 =
      (w.fetchStep spider.config.retry.categories request phase).2 := by
  simp only [taskStep]
  split <;> simp [*]

/-- A step of a fetch leads to another phase of it or to what follows its end. -/
theorem taskStep_fetching_phase (w : World σ) (phase : FetchPhase) :
    (taskStep spider request w (.fetching phase)).1 =
      match (w.fetchStep spider.config.retry.categories request phase).1 with
      | .pause phase _ => .fetching phase
      | .over result => afterFetch spider result := by
  simp only [taskStep]
  split <;> simp [*]

@[simp] theorem taskStep_site (w : World σ) (phase : TaskPhase σ) :
    (taskStep spider request w phase).2.2.site = w.site := by
  cases phase with
  | ended outcome => rfl
  | reading rest => cases rest <;> rfl
  | fetching phase =>
    rw [taskStep_fetching_world]
    exact (w.fetchStep_spares _ _ phase).site

variable {visited : List String} {world : World σ} {c : Crawl σ} {hand : List Request}
  {j : Journal}

/-- The site of a run stays, and its tasks, the tasks that left and the pages it read are
sourced. -/
theorem Moves.sourced (h : Moves spider visited world c hand j) :
    c.world.site = world.site ∧
      (∀ t ∈ c.tasks, PhaseSourced spider world.site j.pages t.request t.phase) ∧
      (∀ s ∈ j.settled, PhaseSourced spider world.site j.pages s.1 (.ended s.2)) ∧
      ∀ p ∈ j.pages, p.FetchedFor spider world.site ∧ p.request ∈ c.dispatched := by
  induction h with
  | begin_ => simp
  | offer _ ih => exact ih
  | start _ _ _ ih =>
    obtain ⟨hsite, htasks, hsettled, hpages⟩ := ih
    refine ⟨hsite, ?_, hsettled, fun p hp => ⟨(hpages p hp).1, ?_⟩⟩
    · intro t ht
      rw [start_tasks, List.mem_append, List.mem_singleton] at ht
      rcases ht with ht | rfl
      · exact htasks t ht
      · trivial
    · exact List.mem_cons_of_mem _ (hpages p hp).2
  | @advance c j before after t moves at_ _ ih =>
    obtain ⟨hsite, htasks, hsettled, hpages⟩ := ih
    have hmem : t ∈ c.tasks := by simp [at_]
    obtain ⟨hphase, hnew⟩ := taskStep_sourced hsite (htasks t hmem)
    have hdispatched : t.request ∈ c.dispatched :=
      List.mem_reverse.mp (moves.tasks_sublist.subset (List.mem_map_of_mem hmem))
    refine ⟨by simpa using hsite, ?_, fun s hs => (hsettled s hs).mono _, ?_⟩
    · intro u hu
      rcases eq_or_mem_others hu with rfl | hu
      · exact hphase
      · exact (htasks u ((others_sublist at_).subset hu)).mono _
    · intro p hp
      simp only [Journal.advanced, List.mem_append, Option.mem_toList] at hp
      rcases hp with hp | hp
      · exact hpages p hp
      · exact ⟨(hnew p hp).1, (hnew p hp).2 ▸ hdispatched⟩
  | @settle c j before after t outcome _ _ at_ ended _ ih =>
    obtain ⟨hsite, htasks, hsettled, hpages⟩ := ih
    refine ⟨hsite, fun u hu => htasks u ((others_sublist at_).subset hu), fun s hs => ?_, hpages⟩
    rw [Journal.left_settled, List.mem_append, List.mem_singleton] at hs
    rcases hs with hs | rfl
    · exact hsettled s hs
    · exact ended ▸ htasks t (by simp [at_])

/-- Every request that the engine was offered or holds comes from the start or from a page that led
to it. -/
theorem Moves.request_sourced (h : Moves spider visited world c hand j) {r : Request}
    (hr : r ∈ j.offers.map (·.request) ++ hand) :
    r ∈ spider.startRequests ∨ ∃ p ∈ j.pages, ∃ requests,
      (spider.read p).Rest (.done (.proceed requests)) ∧ r ∈ requests := by
  rw [h.offers_eq, List.mem_append, List.mem_flatMap] at hr
  refine hr.imp_right ?_
  rintro ⟨⟨request, outcome⟩, hs, hr⟩
  have hsource := h.sourced.2.2.1 _ hs
  cases outcome with
  | proceed requests =>
    obtain ⟨p, hp, _, hrest⟩ := hsource
    exact ⟨p, hp, requests, hrest, hr⟩
  | _ => simp [followUps?] at hr

theorem Moves.dispatched_offered (h : Moves spider visited world c hand j) {r : Request}
    (hr : r ∈ c.dispatched) : r ∈ j.offers.map (·.request) := by
  have hadm : r ∈ j.admitted := by
    rw [← h.queue_eq]
    exact List.mem_append_left _ (List.mem_reverse.mpr hr)
  exact (List.filter_sublist.map _).subset hadm

theorem judge_fetched (walk : List (Retry.Category × Retry.CategoryConfig)) (w : World σ)
    (answer : Arrival) : (w.judge walk request answer).2.fetched = w.fetched := by
  unfold World.judge
  dsimp only
  split
  · rfl
  · rfl
  · split
    · rename_i heq
      have h := congrArg (fun x => x.2.fetched) heq
      exact h.symm
    · rename_i heq
      have h := congrArg (fun x => x.2.fetched) heq
      exact h.symm

/-- Only a task that asks fetches, and it fetches its own address if the site answers. -/
theorem taskStep_fetched (spider : Spider σ) (w : World σ)
    (answers : ∃ answer, w.site.reply w.asked request.url = .ok answer) (phase : TaskPhase σ) :
    (phase = .fetching .asking ∧
        (taskStep spider request w phase).2.2.fetched = request.url :: w.fetched) ∨
      phase ≠ .fetching .asking ∧ (taskStep spider request w phase).2.2.fetched = w.fetched := by
  cases phase with
  | ended outcome => exact Or.inr ⟨by simp, rfl⟩
  | reading rest => exact Or.inr ⟨by simp, by cases rest <;> rfl⟩
  | fetching phase =>
    rw [taskStep_fetching_world]
    cases phase with
    | asking =>
      obtain ⟨answer, hreply⟩ := answers
      rw [World.fetchStep_asking, hreply]
      exact Or.inl ⟨rfl, rfl⟩
    | arriving answer => exact Or.inr ⟨by simp, judge_fetched _ _ _⟩

/-- On a site that always answers, a run has fetched addresses of dispatched requests only, and
those of all but the tasks that have not asked yet. -/
theorem Moves.fetched (answers : ∀ earlier url, ∃ answer, world.site.reply earlier url = .ok answer)
    (h : Moves spider visited world c hand j) :
    ∃ more, c.world.fetched = more ++ world.fetched ∧
      (∀ u ∈ more, ∃ r ∈ c.dispatched, r.url = u) ∧
      (∀ t ∈ c.tasks, t.phase = .fetching .asking ∨ t.request.url ∈ more) ∧
      ∀ s ∈ j.settled, s.1.url ∈ more := by
  induction h with
  | begin_ => exact ⟨[], by simp⟩
  | offer _ ih => exact ih
  | start _ _ _ ih =>
    obtain ⟨more, heq, hfrom, htasks, hsettled⟩ := ih
    refine ⟨more, heq, ?_, ?_, hsettled⟩
    · intro u hu
      obtain ⟨r, hr, hurl⟩ := hfrom u hu
      exact ⟨r, List.mem_cons_of_mem _ hr, hurl⟩
    · intro t ht
      rw [start_tasks, List.mem_append, List.mem_singleton] at ht
      rcases ht with ht | rfl
      · exact htasks t ht
      · exact Or.inl rfl
  | @advance c j before after t moves at_ _ ih =>
    obtain ⟨more, heq, hfrom, htasks, hsettled⟩ := ih
    have hmem : t ∈ c.tasks := by simp [at_]
    have hdispatched : t.request ∈ c.dispatched :=
      List.mem_reverse.mp (moves.tasks_sublist.subset (List.mem_map_of_mem hmem))
    have hreply : ∃ answer, c.world.site.reply c.world.asked t.request.url = .ok answer := by
      rw [moves.sourced.1]
      exact answers _ _
    rcases taskStep_fetched spider c.world hreply t.phase with
      ⟨_, hfetched⟩ | ⟨hphase, hfetched⟩
    · refine ⟨t.request.url :: more, by rw [hfetched, heq]; rfl, ?_, ?_, ?_⟩
      · intro u hu
        rcases List.mem_cons.mp hu with rfl | hu
        · exact ⟨_, hdispatched, rfl⟩
        · exact hfrom u hu
      · intro u hu
        rcases eq_or_mem_others hu with rfl | hu
        · exact Or.inr List.mem_cons_self
        · exact (htasks u ((others_sublist at_).subset hu)).imp_right (List.mem_cons_of_mem _)
      · exact fun s hs => List.mem_cons_of_mem _ (hsettled s hs)
    · refine ⟨more, hfetched.trans heq, hfrom, ?_, hsettled⟩
      intro u hu
      rcases eq_or_mem_others hu with rfl | hu
      · exact Or.inr ((htasks t hmem).resolve_left hphase)
      · exact htasks u ((others_sublist at_).subset hu)
  | @settle c j before after t outcome requests _ at_ ended _ ih =>
    obtain ⟨more, heq, hfrom, htasks, hsettled⟩ := ih
    refine ⟨more, heq, hfrom, fun u hu => htasks u ((others_sublist at_).subset hu),
      fun s hs => ?_⟩
    rw [Journal.left_settled, List.mem_append, List.mem_singleton] at hs
    rcases hs with hs | rfl
    · exact hsettled s hs
    · exact (htasks t (by simp [at_])).resolve_left (by simp [ended])

end Crawl

end SiteSpiders

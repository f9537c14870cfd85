import SiteSpiders.Proofs.Crawl.Halting

/-!
# Crawls that follow links

A spider follows links if what a page leads to depends on its address alone, each link one
deeper than the page. Which pages can be read is the site's affair: a page that is not
fetched, or has a status that is passed over, counts as having no links. So a chart of the
links and of the pages that can be read tells what a crawl can reach. Without revisits
every task reads its own page or none, so whatever is dispatched is reached on the chart
by as many links as it lies deep, and the crawl halts.
-/
namespace SiteSpiders

variable {σ : Type}

/-- Whether the crawl of a spider may go to an address. -/
def Spider.Allows (spider : Spider σ) (url : Url) : Prop :=
  ∀ domains ∈ spider.domains, domainAllowed url domains = true

instance (spider : Spider σ) (url : Url) : Decidable (spider.Allows url) :=
  inferInstanceAs (Decidable (∀ domains ∈ spider.domains, _))

/-- The pages of a site by address: where each one links to, and which of them can be read. -/
structure Chart where
  links : String → List Url
  opens : String → Prop

namespace Chart

/-- Whether a spider makes of every page of a site what a chart says: it leads to the links of the
address that was asked for, each one deeper than the page. Other outcomes are for pages without
links. -/
def Guides (chart : Chart) (spider : Spider σ) (site : Site) : Prop :=
  ∀ (p : Response) (outcome : Outcome), p.FetchedFor spider site →
    p.request.depth < spider.config.maxDepth → (spider.read p).Rest (.done outcome) →
      ∃ requests, Crawl.followUps? outcome = some requests ∧
        requests.map (·.url) = chart.links p.request.url.text ∧
        ∀ r ∈ requests, r.depth = p.request.depth + 1

/-- A spider that reads off a page nothing but its address guides a site without redirects. -/
theorem Guides.of_direct {chart : Chart} {spider : Spider σ} {site : Site}
    (direct : ∀ earlier url answer, site.reply earlier url = .ok answer → answer.url = url)
    (reads : ∀ (p : Response) (outcome : Outcome), (spider.read p).Rest (.done outcome) →
      ∃ requests, Crawl.followUps? outcome = some requests ∧
        requests.map (·.url) = chart.links p.url.text ∧
        ∀ r ∈ requests, r.depth = p.request.depth + 1) :
    chart.Guides spider site := by
  intro p outcome fetched _ rest
  obtain ⟨-, earlier, answer, hreply, hurl, -⟩ := fetched
  have same : p.url = p.request.url := hurl.symm.trans (direct _ _ _ hreply)
  rw [← same]
  exact reads p outcome rest

/-- Whether a run came upon the pages as a chart says: of the tasks that left, those had their page
read whose page can be. Every run does so for some chart, since it tells which pages were read. -/
def Agrees (chart : Chart) (j : Journal) : Prop :=
  ∀ s ∈ j.settled, s.1.url.text ∈ j.pages.map (·.request.url.text) ↔ chart.opens s.1.url.text

/-- Whether a site has a page to read at exactly the addresses that a chart says, whatever it was
asked before. -/
def Fits (chart : Chart) (spider : Spider σ) (site : Site) : Prop :=
  ∀ earlier url, chart.opens url.text ↔
    ∃ answer, site.reply earlier url = .ok answer ∧ spider.config.accepts answer.status = true

/-- Whether an address is reached from a start by so many links of pages that can be read, passing
through allowed addresses only. -/
inductive Reaches (chart : Chart) (spider : Spider σ) : Nat → String → Prop
  | start {r : Request} (hr : r ∈ spider.startRequests) (allowed : spider.Allows r.url) :
      Reaches chart spider 0 r.url.text
  | link {n : Nat} {u : String} {v : Url} (reached : Reaches chart spider n u)
      (opens : chart.opens u) (linked : v ∈ chart.links u) (allowed : spider.Allows v) :
      Reaches chart spider (n + 1) v.text

/-- The addresses that so many links lead to, whether or not they are allowed and can be read. -/
def wave (links : String → List Url) (spider : Spider σ) : Nat → List String
  | 0 => spider.startRequests.map (·.url.text)
  | n + 1 => (wave links spider n).flatMap fun u => (links u).map (·.text)

theorem Reaches.mem_wave {chart : Chart} {spider : Spider σ} {n : Nat} {u : String}
    (h : chart.Reaches spider n u) : u ∈ wave chart.links spider n := by
  induction h with
  | start hr _ => exact List.mem_map_of_mem hr
  | link _ _ linked _ ih => exact List.mem_flatMap.mpr ⟨_, ih, List.mem_map_of_mem linked⟩

end Chart

namespace Crawl

variable {spider : Spider σ} {visited : List String} {world : World σ} {c : Crawl σ}
  {hand : List Request} {j : Journal} {chart : Chart}

/-- Whether a task has its page among some pages exactly if it reads it or ended by reading it. A
task that ended otherwise leads nowhere. -/
def PhaseRead (spider : Spider σ) (pages : List Response) (request : Request) :
    TaskPhase σ → Prop
  | .fetching _ => request.url.text ∉ pages.map (·.request.url.text)
  | .reading rest => ∃ p ∈ pages, p.request = request ∧ (spider.read p).Rest rest
  | .ended outcome =>
    (∃ p ∈ pages, p.request = request ∧ (spider.read p).Rest (.done outcome)) ∨
    request.url.text ∉ pages.map (·.request.url.text) ∧ followUps? outcome = some []

/-- Pages for other addresses do not matter to a task. -/
theorem PhaseRead.other {pages more : List Response} {request : Request} {phase : TaskPhase σ}
    (h : PhaseRead spider pages request phase)
    (other : ∀ p ∈ more, p.request.url.text ≠ request.url.text) :
    PhaseRead spider (pages ++ more) request phase := by
  have none : request.url.text ∉ pages.map (·.request.url.text) →
      request.url.text ∉ (pages ++ more).map (·.request.url.text) := by
    intro hnone hmem
    rw [List.map_append, List.mem_append] at hmem
    refine hmem.elim hnone fun hmore => ?_
    obtain ⟨p, hp, htext⟩ := List.mem_map.mp hmore
    exact other p hp htext
  have grow : ∀ {Q : Response → Prop}, (∃ p ∈ pages, Q p) → ∃ p ∈ pages ++ more, Q p := by
    rintro Q ⟨p, hp, hq⟩
    exact ⟨p, List.mem_append_left _ hp, hq⟩
  cases phase with
  | fetching phase => exact none h
  | reading rest => exact grow h
  | ended outcome => exact h.imp grow fun hunread => ⟨none hunread.1, hunread.2⟩

/-- A task that steps has its page among the pages as soon as it reads it. -/
theorem taskStep_read {pages : List Response} {t : Task σ} {w : World σ}
    (busy : t.phase.isEnded = false) (h : PhaseRead spider pages t.request t.phase) :
    PhaseRead spider (pages ++ (delivery? spider w t).toList) t.request
      (taskStep spider t.request w t.phase).1 := by
  obtain ⟨ticket, request, phase⟩ := t
  cases phase with
  | ended outcome => cases busy
  | reading rest =>
    simp only [delivery?, Option.toList_none, List.append_nil, taskStep]
    obtain ⟨p, hp, hreq, hrest⟩ := h
    cases rest with
    | done outcome => exact Or.inl ⟨p, hp, hreq, hrest⟩
    | act effect next => exact ⟨p, hp, hreq, .act _ hrest⟩
    | count what rest => exact ⟨p, hp, hreq, .count hrest⟩
  | fetching phase =>
    have unread : ∀ {outcome : Outcome}, followUps? outcome = some [] →
        PhaseRead spider pages request (.ended outcome) := fun hnone => Or.inr ⟨h, hnone⟩
    cases phase with
    | asking =>
      simp only [taskStep, delivery?, World.fetchStep_asking]
      cases w.site.reply w.asked request.url with
      | error fault =>
        simp only [Option.toList_none, List.append_nil]
        exact unread rfl
      | ok answer =>
        simp only [Option.toList_none, List.append_nil]
        exact h
    | arriving answer =>
      simp only [taskStep_fetching_phase, delivery?, World.fetchStep]
      rcases w.judge_cases spider.config.retry.categories request answer with
        ⟨crash, hstep⟩ | ⟨time, hstep⟩ | ⟨r, hstep, _, _, _, hreq⟩
      · simp only [hstep, Option.toList_none, List.append_nil]
        exact unread rfl
      · simp only [hstep, Option.toList_none, List.append_nil]
        exact h
      · simp only [hstep, afterFetch]
        cases spider.config.accepts r.status with
        | false =>
          simp only [Bool.false_eq_true, if_false, Option.toList_none, List.append_nil]
          exact unread rfl
        | true =>
          simp only [if_true, Option.toList_some]
          exact ⟨r, by simp, hreq, .refl⟩

theorem Moves.dispatched_nodup (once : spider.config.revisit = false)
    (h : Moves spider visited world c hand j) : (c.dispatched.map (·.url.text)).Nodup := by
  have hnodup := (h.admitted_nodup once).1
  rw [← h.queue_eq, List.map_append, List.map_reverse] at hnodup
  exact List.nodup_reverse.mp (List.nodup_append.mp hnodup).1

/-- Without revisits all tasks but one, in flight or gone, have other addresses than that one. -/
theorem Moves.others_text (once : spider.config.revisit = false)
    (h : Moves spider visited world c hand j) {before after : List (Task σ)} {t : Task σ}
    (at_ : c.tasks = before ++ t :: after) {r : Request}
    (hr : r ∈ (before ++ after).map (·.request) ++ j.settled.map Prod.fst) :
    r.url.text ≠ t.request.url.text := by
  rcases List.mem_append.mp hr with hr | hr
  · obtain ⟨u, hu, rfl⟩ := List.mem_map.mp hr
    exact h.other_text once at_ hu
  · have hnodup := ((h.settled_perm.map (·.url.text)).nodup_iff).mpr (h.dispatched_nodup once)
    rw [List.map_append] at hnodup
    refine (List.nodup_append.mp hnodup).2.2 _ (List.mem_map_of_mem hr) _ ?_
    exact List.mem_map_of_mem (List.mem_map_of_mem (by simp [at_]))

/-- What holds of all tasks, in flight or gone, by the pages read so far: it holds of a task that is
started, and a step keeps it, both for the task that steps and for the others. -/
theorem Moves.forall_phases {P : List Response → Request → TaskPhase σ → Prop}
    (new : ∀ {c j r rest}, Moves spider visited world c [] j → c.frontier.pending = r :: rest →
      P j.pages r (.fetching .asking))
    (step : ∀ {c j t}, Moves spider visited world c [] j → t ∈ c.tasks →
      t.phase.isEnded = false → P j.pages t.request t.phase →
      P (j.pages ++ (delivery? spider c.world t).toList) t.request
        (taskStep spider t.request c.world t.phase).1)
    (frame : ∀ {c j before after t r phase}, Moves spider visited world c [] j →
      c.tasks = before ++ t :: after →
      r ∈ (before ++ after).map (·.request) ++ j.settled.map Prod.fst → P j.pages r phase →
      P (j.pages ++ (delivery? spider c.world t).toList) r phase)
    (h : Moves spider visited world c hand j) :
    (∀ t ∈ c.tasks, P j.pages t.request t.phase) ∧
      ∀ s ∈ j.settled, P j.pages s.1 (.ended s.2) := by
  induction h with
  | begin_ => simp
  | offer _ ih => exact ih
  | start moves next _ ih =>
    refine ⟨fun t ht => ?_, ih.2⟩
    rw [start_tasks, List.mem_append, List.mem_singleton] at ht
    rcases ht with ht | rfl
    · exact ih.1 t ht
    · exact new moves next
  | @advance c j before after t moves at_ busy ih =>
    have hmem : t ∈ c.tasks := by simp [at_]
    have hother : ∀ u ∈ before ++ after,
        P (j.pages ++ (delivery? spider c.world t).toList) u.request u.phase := by
      intro u hu
      exact frame moves at_ (List.mem_append_left _ (List.mem_map_of_mem hu))
        (ih.1 u ((others_sublist at_).subset hu))
    refine ⟨fun u hu => ?_, fun s hs => ?_⟩
    · rcases eq_or_mem_others hu with rfl | hu
      · exact step moves hmem busy (ih.1 t hmem)
      · exact hother u hu
    · exact frame moves at_ (List.mem_append_right _ (List.mem_map_of_mem hs)) (ih.2 s hs)
  | @settle c j before after t outcome _ _ at_ ended _ ih =>
    refine ⟨fun u hu => ih.1 u ((others_sublist at_).subset hu), fun s hs => ?_⟩
    rw [Journal.left_settled, List.mem_append, List.mem_singleton] at hs
    rcases hs with hs | rfl
    · exact ih.2 s hs
    · exact ended ▸ ih.1 t (by simp [at_])

/-- Without revisits the page of every task, in flight or gone, is its own or none. -/
theorem Moves.read (once : spider.config.revisit = false)
    (h : Moves spider visited world c hand j) :
    (∀ t ∈ c.tasks, PhaseRead spider j.pages t.request t.phase) ∧
      ∀ s ∈ j.settled, PhaseRead spider j.pages s.1 (.ended s.2) := by
  refine h.forall_phases (P := PhaseRead spider) ?_ (fun _ _ => taskStep_read) ?_
  · -- what waits has an address that was not dispatched, so it has no page yet
    intro c j r rest moves next hmem
    obtain ⟨p, hp, htext⟩ := List.mem_map.mp hmem
    obtain ⟨_, hdispatched⟩ := moves.sourced.2.2.2 p hp
    have hnodup := (moves.admitted_nodup once).1
    rw [← moves.queue_eq, next, List.map_append, List.map_cons] at hnodup
    refine (List.nodup_append.mp hnodup).2.2 p.request.url.text ?_ r.url.text
      List.mem_cons_self htext
    exact List.mem_map_of_mem (f := fun r : Request => r.url.text)
      (List.mem_reverse.mpr hdispatched)
  · -- the page that a task delivers was asked for by the task
    intro c j before after t r phase moves at_ hr hread
    refine hread.other fun p hp htext => moves.others_text once at_ hr ?_
    obtain ⟨hsite, hsourced, _⟩ := moves.sourced
    obtain ⟨_, hrequest⟩ :=
      (taskStep_sourced hsite (hsourced t (by simp [at_]))).2 p (Option.mem_toList.mp hp)
    rw [← htext, hrequest]

/-- Whether a task that ended without breaking off had its page read, if that can be. -/
def PhaseOpened (chart : Chart) (pages : List Response) (request : Request) :
    TaskPhase σ → Prop
  | .ended outcome => chart.opens request.url.text →
      request.url.text ∈ pages.map (·.request.url.text) ∨ ∃ crash, outcome = .crashed crash
  | _ => True

theorem PhaseOpened.mono {pages : List Response} {request : Request} {phase : TaskPhase σ}
    (h : PhaseOpened chart pages request phase) (more : List Response) :
    PhaseOpened chart (pages ++ more) request phase := by
  cases phase with
  | fetching phase => trivial
  | reading rest => trivial
  | ended outcome =>
    intro opens
    rw [List.map_append, List.mem_append]
    exact (h opens).imp_left Or.inl

/-- A task does not end without its page, unless it breaks off or its page cannot be read. -/
theorem taskStep_opened {site : Site} (fits : chart.Fits spider site) {pages : List Response}
    {t : Task σ} {w : World σ} (hsite : w.site = site) (busy : t.phase.isEnded = false)
    (sourced : PhaseSourced spider site pages t.request t.phase)
    (read : PhaseRead spider pages t.request t.phase) :
    PhaseOpened chart pages t.request (taskStep spider t.request w t.phase).1 := by
  obtain ⟨ticket, request, phase⟩ := t
  cases phase with
  | ended outcome => cases busy
  | reading rest =>
    cases rest with
    | done outcome =>
      obtain ⟨p, hp, hreq, _⟩ := read
      exact fun _ => Or.inl (List.mem_map.mpr ⟨p, hp, by rw [hreq]⟩)
    | act effect next => trivial
    | count what rest => trivial
  | fetching phase =>
    rw [taskStep_fetching_phase]
    cases phase with
    | asking =>
      rw [World.fetchStep_asking]
      cases hreply : w.site.reply w.asked request.url with
      | ok answer => trivial
      | error fault =>
        intro opens
        obtain ⟨answer, hok, _⟩ := (fits w.asked request.url).mp opens
        rw [← hsite, hreply] at hok
        cases hok
    | arriving answer =>
      simp only [World.fetchStep]
      rcases w.judge_cases spider.config.retry.categories request answer with
        ⟨crash, hstep⟩ | ⟨time, hstep⟩ | ⟨r, hstep, _, hstatus, _, _⟩
      · rw [hstep]
        exact fun _ => Or.inr ⟨crash, rfl⟩
      · rw [hstep]
        trivial
      · simp only [hstep, afterFetch]
        cases haccepts : spider.config.accepts r.status with
        | true => trivial
        | false =>
          intro opens
          obtain ⟨earlier, hreply⟩ := sourced
          obtain ⟨answer', hok, haccepts'⟩ := (fits earlier request.url).mp opens
          obtain rfl : answer = answer' := Except.ok.inj (hreply.symm.trans hok)
          rw [hstatus, haccepts'] at haccepts
          cases haccepts

/-- On a site as charted no task leaves without its page, unless it breaks off or its page cannot be
read. -/
theorem Moves.opened (once : spider.config.revisit = false)
    (h : Moves spider visited world c hand j) (fits : chart.Fits spider world.site) :
    (∀ t ∈ c.tasks, PhaseOpened chart j.pages t.request t.phase) ∧
      ∀ s ∈ j.settled, PhaseOpened (σ := σ) chart j.pages s.1 (.ended s.2) := by
  refine h.forall_phases (P := PhaseOpened chart) (fun _ _ => trivial) ?_
    fun _ _ _ hopened => hopened.mono _
  intro c j t moves hmem busy _
  obtain ⟨hsite, hsourced, _⟩ := moves.sourced
  exact (taskStep_opened fits hsite busy (hsourced t hmem) ((moves.read once).1 t hmem)).mono _

/-- A run on a site as charted comes upon the pages as the chart says, if no task breaks off. -/
theorem Moves.agrees (once : spider.config.revisit = false)
    (h : Moves spider visited world c hand j) (fits : chart.Fits spider world.site)
    (unbroken : ∀ s ∈ j.settled, ∀ crash, s.2 ≠ .crashed crash) : chart.Agrees j := by
  refine fun s hs => ⟨fun hread => ?_, fun opens => ?_⟩
  · obtain ⟨p, hp, htext⟩ := List.mem_map.mp hread
    obtain ⟨haccepts, earlier, answer, hreply, _, hstatus, _⟩ := (h.sourced.2.2.2 p hp).1
    rw [← htext]
    exact (fits earlier p.request.url).mpr ⟨answer, hreply, hstatus ▸ haccepts⟩
  · refine ((h.opened once fits).2 s hs opens).resolve_right ?_
    rintro ⟨crash, hcrash⟩
    exact unbroken s hs crash hcrash

theorem Moves.admitted_within (h : Moves spider visited world c hand j) {r : Request}
    (hr : r ∈ j.admitted) : r.depth < spider.config.maxDepth ∧ spider.Allows r.url := by
  rw [h.admitted_eq] at hr
  obtain ⟨o, ho, rfl⟩ := List.mem_map.mp hr
  have heligible := (List.mem_filter.mp ho).2
  rw [decide_eq_true_eq] at heligible
  exact ⟨heligible.1, heligible.2.1⟩

theorem Moves.admitted_of_eligible (h : Moves spider visited world c hand j) {o : Offer}
    (ho : o ∈ j.offers) (heligible : o.Eligible spider) : o.request ∈ j.admitted := by
  rw [h.admitted_eq]
  exact List.mem_map_of_mem (List.mem_filter.mpr ⟨ho, decide_eq_true heligible⟩)

theorem Moves.admitted_of_dispatched (h : Moves spider visited world c hand j) {r : Request}
    (hr : r ∈ c.dispatched) : r ∈ j.admitted := by
  rw [← h.queue_eq]
  exact List.mem_append_left _ (List.mem_reverse.mpr hr)

theorem Moves.dispatched_of_settled (h : Moves spider visited world c hand j)
    {s : Request × Outcome} (hs : s ∈ j.settled) : s.1 ∈ c.dispatched :=
  h.settled_perm.subset (List.mem_append_left _ (List.mem_map_of_mem hs))

/-- A task of a spider that follows links ends with the links of its page if that was read, and
with none otherwise. -/
theorem PhaseRead.follows {site : Site} (guides : chart.Guides spider site) {pages : List Response}
    (fetched : ∀ p ∈ pages, p.FetchedFor spider site) {request : Request} {outcome : Outcome}
    (within : request.depth < spider.config.maxDepth)
    (h : PhaseRead spider pages request (.ended outcome)) :
    ∃ requests, followUps? outcome = some requests ∧
      (∀ r ∈ requests, r.depth = request.depth + 1) ∧
      (request.url.text ∈ pages.map (·.request.url.text) →
        requests.map (·.url) = chart.links request.url.text) ∧
      (request.url.text ∉ pages.map (·.request.url.text) → requests = []) := by
  rcases h with ⟨p, hp, rfl, hrest⟩ | ⟨hnone, hfollow⟩
  · obtain ⟨requests, hfollow, hlinks, hdepth⟩ := guides p outcome (fetched p hp) within hrest
    exact ⟨requests, hfollow, hdepth, fun _ => hlinks,
      fun hnone => absurd (List.mem_map.mpr ⟨p, hp, rfl⟩) hnone⟩
  · exact ⟨[], hfollow, by simp, fun hmem => absurd hmem hnone, fun _ => rfl⟩

theorem Moves.fetchedFor (h : Moves spider visited world c hand j) :
    ∀ p ∈ j.pages, p.FetchedFor spider world.site :=
  fun p hp => (h.sourced.2.2.2 p hp).1

/-- A request that was offered is a start or a link of a page that was read. -/
theorem Moves.offered_from (once : spider.config.revisit = false)
    (guides : chart.Guides spider world.site)
    (h : Moves spider visited world c [] j) {r : Request} (hr : r ∈ j.offers.map (·.request)) :
    r ∈ spider.startRequests ∨ ∃ s ∈ j.settled, s.1.url.text ∈ j.pages.map (·.request.url.text) ∧
      r.url ∈ chart.links s.1.url.text ∧ r.depth = s.1.depth + 1 := by
  have hoffers := h.offers_eq
  rw [List.append_nil] at hoffers
  rw [hoffers, List.mem_append, List.mem_flatMap] at hr
  refine hr.imp_right ?_
  rintro ⟨s, hs, hr⟩
  have hwithin := h.admitted_within (h.admitted_of_dispatched (h.dispatched_of_settled hs))
  obtain ⟨requests, hfollow, hdepth, hread, hunread⟩ :=
    ((h.read once).2 s hs).follows guides h.fetchedFor hwithin.1
  rw [hfollow, Option.getD_some] at hr
  by_cases hmem : s.1.url.text ∈ j.pages.map (·.request.url.text)
  · exact ⟨s, hs, hmem, hread hmem ▸ List.mem_map_of_mem hr, hdepth r hr⟩
  · rw [hunread hmem] at hr
    cases hr

/-- What entered the queue is reached by as many links as it lies deep, if all pages that were read
can be. -/
theorem Moves.reaches (once : spider.config.revisit = false)
    (guides : chart.Guides spider world.site) (starts : ∀ r ∈ spider.startRequests, r.depth = 0)
    (h : Moves spider visited world c [] j)
    (truthful : ∀ s ∈ j.settled, s.1.url.text ∈ j.pages.map (·.request.url.text) →
      chart.opens s.1.url.text) {r : Request} (hr : r ∈ j.admitted) :
    chart.Reaches spider r.depth r.url.text := by
  have hallowed := (h.admitted_within hr).2
  have hoffered : r ∈ j.offers.map (·.request) := (List.filter_sublist.map _).subset hr
  -- the induction is on the depth, since every link comes from a page one less deep
  induction hdepth : r.depth generalizing r with
  | zero =>
    rcases h.offered_from once guides hoffered with hstart | ⟨s, _, _, _, hdeep⟩
    · exact .start hstart hallowed
    · omega
  | succ n ih =>
    rcases h.offered_from once guides hoffered with hstart | ⟨s, hs, hread, hlink, hdeep⟩
    · have := starts r hstart
      omega
    · have hs' := h.admitted_of_dispatched (h.dispatched_of_settled hs)
      have hreached := ih hs' (h.admitted_within hs').2 ((List.filter_sublist.map _).subset hs')
        (by omega)
      exact .link hreached (truthful s hs hread) hlink hallowed

/-- A crawl that follows links dispatches no more requests than its waves hold. -/
theorem Moves.dispatched_le (once : spider.config.revisit = false)
    (guides : chart.Guides spider world.site) (starts : ∀ r ∈ spider.startRequests, r.depth = 0)
    (h : Moves spider visited world c [] j) :
    c.dispatched.length ≤
      ((List.range spider.config.maxDepth).flatMap (Chart.wave chart.links spider)).length := by
  -- for a bound it does not matter which pages can be read
  have guides' : Chart.Guides { chart with opens := fun _ => True } spider world.site := guides
  have hsub : c.dispatched.map (·.url.text) ⊆
      (List.range spider.config.maxDepth).flatMap (Chart.wave chart.links spider) := by
    intro u hu
    obtain ⟨r, hr, rfl⟩ := List.mem_map.mp hu
    have hadm := h.admitted_of_dispatched hr
    have hreached := h.reaches once guides' starts (fun _ _ _ => trivial) hadm
    exact List.mem_flatMap.mpr
      ⟨r.depth, List.mem_range.mpr (h.admitted_within hadm).1, hreached.mem_wave⟩
  have hle := ((h.dispatched_nodup once).subperm hsub).length_le
  rwa [List.length_map] at hle

/-- A crawl that follows links halts, and is never stuck on the way: while a task is in flight, one
can go on or be settled. -/
theorem Run.link_halts (once : spider.config.revisit = false)
    (guides : chart.Guides spider world.site)
    (starts : ∀ r ∈ spider.startRequests, r.depth = 0) (run : Run spider visited world c j) :
    c.Halts spider ∧ (c.tasks ≠ [] → ∃ c', Next spider c c') := by
  refine ⟨run.halts fun c j run => run.moves.dispatched_le once guides starts, fun busy => ?_⟩
  obtain ⟨t, ht⟩ := List.exists_mem_of_ne_nil c.tasks busy
  have at_ := task?_of_mem run.moves.ticketed ht
  cases hphase : t.phase with
  | fetching phase => exact ⟨_, .advance at_ (by rw [hphase]; rfl)⟩
  | reading rest => exact ⟨_, .advance at_ (by rw [hphase]; rfl)⟩
  | ended outcome =>
    have hread := (run.moves.read once).1 t ht
    rw [hphase] at hread
    obtain ⟨requests, hfollow, _⟩ := hread.follows guides run.moves.fetchedFor
      (run.moves.admitted_within
        (run.moves.admitted_of_dispatched (run.moves.dispatched_of_task ht))).1
    obtain ⟨c', hsettle⟩ := run.settles ht hphase hfollow
    exact ⟨c', .settle at_ hphase hsettle⟩

/-- A crawl that halts and is never stuck comes to its end. -/
theorem Run.exists_end {c : Crawl σ} {j : Journal} (run : Run spider visited world c j)
    (halts : c.Halts spider)
    (goes : ∀ c j, Run spider visited world c j → c.tasks ≠ [] → ∃ c', Next spider c c') :
    ∃ c j, Run spider visited world c j ∧ c.tasks = [] := by
  induction halts generalizing j with
  | intro c _ ih =>
    by_cases quiet : c.tasks = []
    · exact ⟨c, j, run, quiet⟩
    · obtain ⟨c', next⟩ := goes c j run quiet
      obtain ⟨j', run'⟩ := run.next next
      exact ih c' next run'

/-- Once no task is in flight, the links of every page that was dispatched and can be read have been
offered, one deeper than the page. -/
theorem Run.offers_links (once : spider.config.revisit = false)
    (guides : chart.Guides spider world.site)
    (run : Run spider visited world c j) (quiet : c.tasks = []) (agrees : chart.Agrees j)
    {r : Request} (hr : r ∈ c.dispatched) (opens : chart.opens r.url.text) {v : Url}
    (linked : v ∈ chart.links r.url.text) :
    ∃ o ∈ j.offers, o.request.url = v ∧ o.request.depth = r.depth + 1 := by
  have hperm := run.moves.settled_perm
  rw [quiet, List.map_nil, List.append_nil] at hperm
  obtain ⟨s, hs, rfl⟩ := List.mem_map.mp (hperm.symm.subset hr)
  obtain ⟨requests, hfollow, hdepth, hread, _⟩ := ((run.moves.read once).2 s hs).follows guides
    run.moves.fetchedFor (run.moves.admitted_within (run.moves.admitted_of_dispatched hr)).1
  rw [← hread ((agrees s hs).mpr opens)] at linked
  obtain ⟨q, hq, rfl⟩ := List.mem_map.mp linked
  have hoffered : q ∈ j.offers.map (·.request) := by
    have hoffers := run.moves.offers_eq
    rw [List.append_nil] at hoffers
    rw [hoffers]
    exact List.mem_append_right _ (List.mem_flatMap.mpr ⟨s, hs, by rw [hfollow]; exact hq⟩)
  obtain ⟨o, ho, rfl⟩ := List.mem_map.mp hoffered
  exact ⟨o, ho, rfl, hdepth _ hq⟩

theorem Run.offers_start (run : Run spider visited world c j) {r : Request}
    (hr : r ∈ spider.startRequests) : ∃ o ∈ j.offers, o.request = r := by
  have hoffers := run.moves.offers_eq
  rw [List.append_nil] at hoffers
  exact List.mem_map.mp (hoffers ▸ List.mem_append_left _ hr)

end Crawl

/-- A crawl that follows links comes to its end, once it has been opened. -/
theorem Crawler.exists_end_of_guides {spider : Spider σ} {chart : Chart} (k : Crawler σ)
    (once : spider.config.revisit = false) (guides : chart.Guides spider k.world.site)
    (starts : ∀ r ∈ spider.startRequests, r.depth = 0) {desk : Desk σ}
    (opened : spider.onOpen k.world.desk = (.ok (), desk)) :
    ∃ c j, k.Running spider c j ∧ c.tasks = [] := by
  have guides' : chart.Guides spider
      ({ k.world with counters := {}, desk } : World σ).site := guides
  obtain ⟨c, j, run, quiet⟩ := Crawl.Run.exists_end .start
    (Crawl.Run.link_halts once guides' starts .start).1
    fun c j run => (run.link_halts once guides' starts).2
  exact ⟨c, j, ⟨desk, {}, opened, run⟩, quiet⟩

/-- A small site. A short way over `b` and a long one over `c` and `d` lead from `a` to `e`, and on
to `f`. The page `g` is missing, and `a` links to another site too. -/
def sampleChart : Chart where
  links
    | "https://site.example/a" => [samplePage "b", samplePage "c",
        { samplePage "b" with authority := some { host := some (.domain "other.example") } }]
    | "https://site.example/b" => [samplePage "e", samplePage "a"]
    | "https://site.example/c" => [samplePage "d", samplePage "g"]
    | "https://site.example/d" => [samplePage "e"]
    | "https://site.example/e" => [samplePage "f"]
    | "https://site.example/g" => [samplePage "h"]
    | _ => []
  opens text := text ≠ "https://site.example/g"

/-- A spider that follows the links of the small site. -/
def linkSpider (maxDepth maxConcurrency : Nat) : Spider Unit where
  name := "links"
  start := [samplePage "a"]
  config := { maxDepth, maxConcurrency }
  domains := some ["site.example"]
  read p := .done (.proceed ((sampleChart.links p.url.text).map fun url =>
    { url, depth := p.request.depth + 1 }))

/-- A new crawler on the small site, whose page `b` takes its time. -/
def linkCrawler : Crawler Unit where
  world.site.reply _ url := .ok
    { status := if url.text = "https://site.example/g" then 404 else 200
      delay := if url.text = "https://site.example/b" then some (.ofSeconds 9) else none
      url }
  world.desk := { store := () }

/-- What a crawl of the small site comes to by the clock. -/
def linkCrawl (maxDepth maxConcurrency : Nat) : Crawl Unit :=
  (TimedCrawl.run (linkSpider maxDepth maxConcurrency) 45
    (linkCrawler.timed (linkSpider maxDepth maxConcurrency) linkCrawler.world.desk)).crawl

def linkJournal (maxDepth maxConcurrency : Nat) : Journal :=
  linkCrawler.journal (linkSpider maxDepth maxConcurrency) linkCrawler.world.desk 45

theorem linkCrawl_running (maxDepth maxConcurrency : Nat) :
    linkCrawler.Running (linkSpider maxDepth maxConcurrency) (linkCrawl maxDepth maxConcurrency)
      (linkJournal maxDepth maxConcurrency) :=
  linkCrawler.running_timed (linkSpider maxDepth maxConcurrency) 45 rfl

theorem Reading.rest_of_done {outcome : Outcome} {rest : Reading σ}
    (h : (Reading.done outcome).Rest rest) : rest = .done outcome := by
  induction h with
  | refl => rfl
  | act _ _ ih => cases ih
  | count _ ih => cases ih

theorem linkSpider_guided (maxDepth maxConcurrency : Nat) :
    sampleChart.Guides (linkSpider maxDepth maxConcurrency) linkCrawler.world.site := by
  refine .of_direct (fun earlier url answer hreply => ?_) fun p outcome hrest => ?_
  · obtain rfl := Except.ok.inj hreply
    rfl
  · cases Reading.rest_of_done hrest
    exact ⟨_, rfl, by simp [Function.comp_def], by simp⟩

theorem linkSpider_starts (maxDepth maxConcurrency : Nat) :
    ∀ r ∈ (linkSpider maxDepth maxConcurrency).startRequests, r.depth = 0 := by
  simp [linkSpider, Request.start]

theorem linkCrawler_fits (maxDepth maxConcurrency : Nat) :
    sampleChart.Fits (linkSpider maxDepth maxConcurrency) linkCrawler.world.site := by
  intro earlier url
  by_cases missing : url.text = "https://site.example/g" <;>
    simp [sampleChart, linkCrawler, linkSpider, Config.accepts, missing]

end SiteSpiders

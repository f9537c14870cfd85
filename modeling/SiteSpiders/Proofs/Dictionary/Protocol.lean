import SiteSpiders.Proofs.Crawl.Accounts
import SiteSpiders.Proofs.Crawl.Provenance
import SiteSpiders.Proofs.Dictionary.Keeping

/-!
# The stages of a dictionary crawl

Whatever pages a site serves, a dictionary crawl goes through its four stages in order:
every request has the depth of its stage, and was found on a page of the stage before that
was fetched, read to the end and settled. A request for a character gives back the title
it was made from. So no page is read without its context, no depth overflows, and the
crawl ends even if it may revisit addresses, since every stage leads to a later one.
-/
namespace SiteSpiders

/-- Whether the failures of a site are failures of the exchange with it. -/
def Site.FailsInExchange (site : Site) : Prop :=
  ∀ earlier url fault, site.reply earlier url = .error fault → ∃ text, fault = .exchange text

end SiteSpiders

namespace SiteSpiders.Dictionary

open Crawl

/-- Whether a request belongs to one of the four stages, with the page that led to it. -/
inductive Staged (start : Url) (led : Response → Request → Prop) (r : Request) : Prop
  | bootstrap (stage : r.stage = .bootstrap) (depth : r.depth = 0) (bare : r.note = none)
      (url : r.url = start)
  | pinyinIndex {p : Response} (stage : r.stage = .pinyinIndex) (depth : r.depth = 1)
      (bare : r.note = none) (led : led p r) (before : p.request.stage = .bootstrap)
  | characterList {p : Response} (stage : r.stage = .characterList) (depth : r.depth = 2)
      (bare : r.note = none) (led : led p r) (before : p.request.stage = .pinyinIndex)
  | character {p : Response} {anchor : Html.Node} {name : String} (stage : r.stage = .character)
      (depth : r.depth = 3) (recovered : r.readNote readName = .ok (some name)) (led : led p r)
      (before : p.request.stage = .characterList)
      (listed : anchor ∈ (Html.parse p.body).select characterItems)
      (titled : anchor.attribute? "title" = some name)
      (linked : characterLink? p.url anchor = some { url := r.url, name })

variable {start : Url} {config : Config} {led led' : Response → Request → Prop} {r : Request}
  {p : Response}

theorem Staged.mono (grows : ∀ p r, led p r → led' p r) (h : Staged start led r) :
    Staged start led' r := by
  cases h with
  | bootstrap stage depth bare url => exact .bootstrap stage depth bare url
  | pinyinIndex stage depth bare led before =>
    exact .pinyinIndex stage depth bare (grows _ _ led) before
  | characterList stage depth bare led before =>
    exact .characterList stage depth bare (grows _ _ led) before
  | character stage depth recovered led before listed titled linked =>
    exact .character stage depth recovered (grows _ _ led) before listed titled linked

theorem Staged.nextDepth_eq (h : Staged start led p.request) :
    p.nextDepth = .ok (p.request.depth + 1) := by
  have hdepth : p.request.depth ≤ 3 := by
    cases h with
    | bootstrap _ depth => omega
    | pinyinIndex _ depth => omega
    | characterList _ depth => omega
    | character _ depth => omega
  have hword : 4 < wordBound := by decide
  rw [Response.nextDepth, addWord, if_pos (by omega)]

theorem depth_of_leads {depth : Nat} (h : r ∈ leads p depth) : r.depth = depth := by
  unfold leads at h
  split at h
  · obtain ⟨url, _, rfl⟩ := List.mem_map.mp h
    rfl
  · obtain ⟨url, _, rfl⟩ := List.mem_map.mp h
    rfl
  · obtain ⟨link, _, rfl⟩ := List.mem_map.mp h
    rfl
  · cases h

theorem readNote_characterRequest (depth : Nat) (link : CharacterLink) :
    (characterRequest depth link).readNote readName = .ok (some link.name) := by
  simp only [characterRequest, Request.readNote, readName_nameNote]

/-- A page of one stage leads to requests of the next. -/
theorem Staged.next (h : Staged start led p.request) (hr : r ∈ leads p (p.request.depth + 1))
    (found : led p r) : Staged start led r := by
  have hdepth := depth_of_leads hr
  cases h with
  | bootstrap stage depth _ _ =>
    simp only [leads, stage] at hr
    obtain ⟨url, _, rfl⟩ := List.mem_map.mp hr
    exact .pinyinIndex rfl (by rw [hdepth, depth]) rfl found stage
  | pinyinIndex stage depth _ _ _ =>
    simp only [leads, stage] at hr
    obtain ⟨url, _, rfl⟩ := List.mem_map.mp hr
    exact .characterList rfl (by rw [hdepth, depth]) rfl found stage
  | characterList stage depth _ _ _ =>
    simp only [leads, stage] at hr
    obtain ⟨link, hlink, rfl⟩ := List.mem_map.mp hr
    obtain ⟨anchor, hanchor, hlink?⟩ := List.mem_filterMap.mp hlink
    exact .character rfl (by rw [hdepth, depth]) (readNote_characterRequest _ link) found stage
      hanchor (title_of_characterLink? hlink?) hlink?
  | character stage _ _ _ _ _ _ _ =>
    simp only [leads, stage] at hr
    cases hr

/-- The page of a request of a stage is read without a failure and without breaking off. -/
theorem Staged.outcome (h : Staged start led p.request) {reading : Reading GuardedStore}
    (hreads : Reads p reading) {outcome : Outcome} (at_ : reading = .done outcome) :
    outcome = .skip ∨ ∃ requests, outcome = .proceed requests := by
  have hdeep := h.nextDepth_eq
  cases hreads with
  | passing => cases at_
  | store => cases at_
  | stored => cases at_
  | kept => exact Or.inl (Reading.done.inj at_).symm
  | @check depth passed links found listed =>
    cases links with
    | cons link rest => cases at_
    | nil => exact Or.inr ⟨found, (Reading.done.inj at_).symm⟩
  | finished whole =>
    cases at_
    cases h with
    | bootstrap stage _ _ _ =>
      simp only [read, stage, proceedAt, hdeep, Reading.done.injEq] at whole
      exact Or.inr ⟨_, whole.symm⟩
    | pinyinIndex stage _ _ _ _ =>
      simp only [read, stage, proceedAt, hdeep, Reading.done.injEq] at whole
      exact Or.inr ⟨_, whole.symm⟩
    | characterList stage _ _ _ _ =>
      simp only [read, stage, hdeep] at whole
      generalize characterLinks (Html.parse p.body) p.url = links at whole
      cases links with
      | nil => exact Or.inr ⟨[], (Reading.done.inj whole).symm⟩
      | cons link rest => cases whole
    | character stage _ recovered _ _ _ _ _ =>
      simp only [read, stage, entryOf, recovered] at whole
      cases whole

variable {visited : List String} {world : World GuardedStore} {c : Crawl GuardedStore}
  {hand : List Request} {j : Journal}

/-- What a task left with was found on its page, one deeper, if the page belongs to a stage. -/
theorem leads_of_settled (h : Moves (spider start config) visited world c hand j)
    {s : Request × Outcome} (hs : s ∈ j.settled) (hr : r ∈ (followUps? s.2).getD []) :
    ∃ p ∈ j.pages, p.request = s.1 ∧ (∃ requests, s.2 = .proceed requests ∧ r ∈ requests) ∧
      ∀ led, Staged start led p.request → r ∈ leads p (p.request.depth + 1) := by
  obtain ⟨p, hp, hreq, hrest⟩ := h.settled_led hs hr
  obtain ⟨request, outcome⟩ := s
  cases outcome with
  | proceed requests =>
    refine ⟨p, hp, hreq, ⟨requests, rfl, hr⟩, fun led staged => ?_⟩
    obtain ⟨depth, hdeep, hsub⟩ := proceed_sublist_leads (reads_of_rest hrest) rfl
    rw [staged.nextDepth_eq] at hdeep
    exact Except.ok.inj hdeep ▸ hsub.subset hr
  | _ => cases hr

theorem moves_staged (h : Moves (spider start config) visited world c hand j) :
    ∀ r ∈ j.offers.map (·.request) ++ hand,
      Staged start (j.LedTo (spider start config) world.site) r := by
  refine h.forall_offered (P := Staged start) Staged.mono ?_ ?_
  · intro led r hr
    obtain rfl : r = Request.start start := by simpa [spider] using hr
    exact .bootstrap rfl rfl rfl rfl
  · intro led p requests r staged hrest hr found
    obtain ⟨depth, hdeep, hsub⟩ := proceed_sublist_leads (reads_of_rest hrest) rfl
    rw [staged.nextDepth_eq] at hdeep
    obtain rfl := Except.ok.inj hdeep
    exact staged.next (hsub.subset hr) found

theorem dispatched_staged (h : Moves (spider start config) visited world c hand j)
    (hr : r ∈ c.dispatched) : Staged start (j.LedTo (spider start config) world.site) r :=
  moves_staged h r (List.mem_append_left _ (h.dispatched_offered hr))

theorem page_staged (h : Moves (spider start config) visited world c hand j) (hp : p ∈ j.pages) :
    Staged start (j.LedTo (spider start config) world.site) p.request :=
  dispatched_staged h (h.sourced.2.2.2 p hp).2

/-- Whether a task that has ended ended without a failure of its own: what failed is the exchange
with the site. -/
def PhaseHonest (site : Site) (request : Request) : TaskPhase GuardedStore → Prop
  | .ended outcome => outcome ≠ .stop ∧ ∀ fault, outcome = .failed fault →
      ∃ earlier, site.reply earlier request.url = .error fault
  | _ => True

/-- A step of a task for a request of a stage ends it by reading its page or by a failed
exchange. -/
theorem taskStep_honest {t : Task GuardedStore}
    (h : Moves (spider start config) visited world c [] j)
    (ht : t ∈ c.tasks) (busy : t.phase.isEnded = false) :
    PhaseHonest world.site t.request
      (taskStep (spider start config) t.request c.world t.phase).1 := by
  obtain ⟨hsite, hsourced, _⟩ := h.sourced
  have hsource := hsourced t ht
  obtain ⟨ticket, request, phase⟩ := t
  cases phase with
  | ended outcome => cases busy
  | reading rest =>
    obtain ⟨p, hp, _, hrest⟩ := hsource
    cases rest with
    | act effect next => trivial
    | count what rest => trivial
    | done outcome =>
      rcases (page_staged h hp).outcome (reads_of_rest hrest) rfl with rfl | ⟨requests, rfl⟩
      · exact ⟨by simp, by simp⟩
      · exact ⟨by simp, by simp⟩
  | fetching phase =>
    rw [taskStep_fetching_phase]
    cases phase with
    | asking =>
      rw [World.fetchStep_asking]
      cases hreply : c.world.site.reply c.world.asked request.url with
      | ok answer => trivial
      | error fault =>
        refine ⟨by simp, fun fault' hfault => ?_⟩
        obtain rfl := Outcome.failed.inj hfault
        exact ⟨_, hsite ▸ hreply⟩
    | arriving answer =>
      simp only [World.fetchStep]
      rcases c.world.judge_cases (spider start config).config.retry.categories request answer with
        ⟨crash, hstep⟩ | ⟨time, hstep⟩ | ⟨r, hstep, _⟩
      · rw [hstep]
        exact ⟨by simp, by simp⟩
      · rw [hstep]
        trivial
      · simp only [hstep, afterFetch]
        split_ifs
        · trivial
        · exact ⟨by simp, by simp⟩

/-- No task of a dictionary crawl fails but by the exchange with the site, and none stops it. -/
theorem moves_honest (h : Moves (spider start config) visited world c hand j) :
    (∀ t ∈ c.tasks, PhaseHonest world.site t.request t.phase) ∧
      ∀ s ∈ j.settled, PhaseHonest world.site s.1 (.ended s.2) :=
  h.forall_phases (P := fun _ => PhaseHonest world.site) (fun _ _ => trivial)
    (fun moves ht busy _ => taskStep_honest moves ht busy) fun _ _ _ honest => honest

theorem depth_of_settled (h : Moves (spider start config) visited world c hand j)
    {s : Request × Outcome} (hs : s ∈ j.settled) (hr : r ∈ (followUps? s.2).getD []) :
    r.depth = s.1.depth + 1 := by
  obtain ⟨p, hp, hreq, _, hleads⟩ := leads_of_settled h hs hr
  rw [depth_of_leads (hleads _ (page_staged h hp)), hreq]

theorem run_ends (run : Run (spider start config) visited world c j) :
    c.Ends (spider start config) := by
  refine run.ends (run.halts_of_deepening fun c j run s hs r hr => ?_)
  rw [depth_of_settled run.moves hs hr]
  exact Nat.lt_succ_self _

theorem Reads.parseErrors {rest : Reading GuardedStore} (h : Reads p rest)
    (w : World GuardedStore) :
    (readStep rest w).2.desk.stats.parseErrors = w.desk.stats.parseErrors := by
  cases h with
  | finished => rfl
  | @check depth passed links found => cases links <;> rfl
  | @passing depth passed links found what => cases what <;> rfl
  | store => rfl
  | @stored e what => cases what <;> rfl
  | kept => rfl

/-- On a site that fails in the exchange only, a run counts no parse error. -/
theorem run_parseErrors (run : Run (spider start config) visited world c j)
    (plain : world.site.FailsInExchange) :
    c.world.desk.stats.parseErrors = world.desk.stats.parseErrors := by
  refine run.constant (fun w => w.desk.stats.parseErrors) ?_ ?_
  · intro c j t run _ ht busy
    have hsource := run.moves.sourced.2.1 t ht
    cases hphase : t.phase with
    | ended outcome => rfl
    | fetching phase =>
      rw [taskStep_fetching_world]
      exact congrArg Prod.fst (c.world.fetchStep_kept _ t.request phase)
    | reading rest =>
      rw [hphase] at hsource
      obtain ⟨p, _, _, hrest⟩ := hsource
      exact (reads_of_rest hrest).parseErrors c.world
  · intro c j t outcome run ht ended
    have hhonest := (moves_honest run.moves).1 t ht
    rw [ended] at hhonest
    cases outcome with
    | failed fault =>
      obtain ⟨earlier, hreply⟩ := hhonest.2 fault rfl
      obtain ⟨text, rfl⟩ := plain _ _ _ hreply
      rfl
    | _ => rfl

theorem prepare_parseErrors {desk desk' : DictionaryDesk} (h : prepare desk = (.ok (), desk')) :
    desk'.stats.parseErrors = desk.stats.parseErrors := by
  unfold prepare at h
  dsimp only at h
  split at h <;> cases h <;> rfl

variable {k : Crawler GuardedStore}

/-- A dictionary crawl goes through its stages in order, whatever the site, the store, the limits
and the order in which tasks end. Every request dispatched has the depth and the note of its stage
and was found on a page of the stage before, fetched with an accepted status and read to the end;
what the request for a character carries gives back the title it was made from. Hence no depth
overflows, no page is read with a failure or breaks off, whatever fails is the exchange with the
site, so that no parse error is counted, and the crawl ends, with or without revisits. -/
theorem dictionary_stages_in_order (running : k.Running (spider start config) c j) :
    (∀ r ∈ c.dispatched, Staged start (j.LedTo (spider start config) k.world.site) r) ∧
      (∀ p ∈ j.pages, p.nextDepth = .ok (p.request.depth + 1) ∧
        ∀ outcome, (read p).Rest (.done outcome) →
          outcome = .skip ∨ ∃ requests, outcome = .proceed requests) ∧
      (k.world.site.FailsInExchange →
        (∀ t ∈ c.tasks, ∀ fault, t.phase = .ended (.failed fault) →
          ∃ text, fault = .exchange text) ∧
        (∀ s ∈ j.settled, ∀ fault, s.2 = .failed fault → ∃ text, fault = .exchange text) ∧
        c.world.desk.stats.parseErrors = k.world.desk.stats.parseErrors) ∧
      c.Ends (spider start config) ∧ ∀ t ∈ c.tasks, t.phase ≠ .ended .stop := by
  obtain ⟨desk, counters, opened, run⟩ := running
  have honest := moves_honest run.moves
  have staged := fun r (hr : r ∈ c.dispatched) => dispatched_staged run.moves hr
  refine ⟨staged, fun p hp => ⟨?_, fun outcome hrest => ?_⟩,
    fun plain => ⟨fun t ht fault ended => ?_, fun s hs fault failed => ?_, ?_⟩, run_ends run,
    fun t ht stops => ?_⟩
  · exact (page_staged run.moves hp).nextDepth_eq
  · exact (page_staged run.moves hp).outcome (reads_of_rest hrest) rfl
  · have hended := honest.1 t ht
    rw [ended] at hended
    obtain ⟨earlier, hreply⟩ := hended.2 fault rfl
    exact plain _ _ _ hreply
  · obtain ⟨earlier, hreply⟩ := (honest.2 s hs).2 fault failed
    exact plain _ _ _ hreply
  · exact (run_parseErrors run plain).trans (prepare_parseErrors opened)
  · have hended := honest.1 t ht
    rw [stops] at hended
    exact hended.1 rfl

/-- A list page that has one link twice. -/
def twiceLinked : String :=
  "<div class=box_content><div><a href=/x title=啊></a><a href=/x title=啊>"

/-- What a crawl of the sample site that may revisit addresses comes to by the clock. -/
def sampleStaged : TimedCrawl GuardedStore :=
  TimedCrawl.run (spider sampleHome { revisit := true }) 50
    ((sampleKeeper twiceLinked).timed (spider sampleHome { revisit := true })
      (prepare (sampleKeeper twiceLinked).world.desk).2)

theorem sampleStaged_running : ∃ j, (sampleKeeper twiceLinked).Running
    (spider sampleHome { revisit := true }) sampleStaged.crawl j := by
  have opened : (spider sampleHome { revisit := true }).onOpen
      (sampleKeeper twiceLinked).world.desk =
        (.ok (), (prepare (sampleKeeper twiceLinked).world.desk).2) := rfl
  exact ⟨_, Crawler.running_timed _ _ 50 opened⟩

/-- The crawl goes through the stages, fetches the page of the character twice, and ends. -/
theorem dictionary_stages_in_order_sample :
    sampleStaged.crawl.tasks = [] ∧
      sampleStaged.crawl.dispatched.reverse.map (fun r => (r.stage, r.depth)) =
        [(.bootstrap, 0), (.pinyinIndex, 1), (.characterList, 2), (.character, 3),
          (.character, 3)] ∧
      sampleStaged.crawl.world.desk.stats.parseErrors = 0 ∧
      sampleStaged.crawl.Ends (spider sampleHome { revisit := true }) ∧
      ∃ led, ∀ r ∈ sampleStaged.crawl.dispatched, Staged sampleHome led r := by
  have computed : sampleStaged.crawl.tasks.isEmpty = true ∧
      sampleStaged.crawl.dispatched.reverse.map (fun r => (r.stage, r.depth)) =
        [(.bootstrap, 0), (.pinyinIndex, 1), (.characterList, 2), (.character, 3),
          (.character, 3)] := by
    decide +kernel
  obtain ⟨j, running⟩ := sampleStaged_running
  obtain ⟨staged, _, faults, ends, _⟩ := dictionary_stages_in_order running
  have plain : (sampleKeeper twiceLinked).world.site.FailsInExchange :=
    fun _ _ _ hreply => by cases hreply
  exact ⟨List.isEmpty_iff.mp computed.1, computed.2, (faults plain).2.2, ends, _, staged⟩

end SiteSpiders.Dictionary

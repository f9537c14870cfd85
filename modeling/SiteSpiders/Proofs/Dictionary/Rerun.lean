import SiteSpiders.Proofs.Dictionary.Checks

/-!
# Running again

A name that is stored when a run begins is not fetched in it. If all the names that the
list pages of a run give are stored by then, the run goes through the lists and no
further: it leaves the store and the count of items, and every link of every list is
counted as a duplicate.
-/
namespace SiteSpiders.Dictionary

open Crawl

variable {start : Url} {config : Config} {visited : List String} {world : World GuardedStore}
  {c : Crawl GuardedStore} {j : Journal}

/-- If all names listed were stored at first, only the pages above the characters are asked for. -/
theorem run_stages (run : Run (spider start config) visited world c j)
    (trusty : world.desk.store.Trusty)
    (known : ∀ p ∈ j.pages, ∀ link ∈ listedOn p, link.name ∈ world.desk.store.store.names) :
    ∀ r ∈ c.dispatched,
      r.stage = .bootstrap ∨ r.stage = .pinyinIndex ∨ r.stage = .characterList := by
  intro r hr
  cases dispatched_staged run.moves hr with
  | bootstrap stage => exact Or.inl stage
  | pinyinIndex stage => exact Or.inr (Or.inl stage)
  | characterList stage => exact Or.inr (Or.inr stage)
  | @character p anchor name stage depth recovered led before listed titled linked =>
    have hfetch : r ∈ fetchesFor name c :=
      List.mem_filter.mpr ⟨hr, decide_eq_true ⟨stage, carried_of_readNote recovered⟩⟩
    obtain ⟨p, hp, hlink⟩ := link_of_fetch run hfetch
    have hnone := (run_requests run trusty).2 name (known p hp _ hlink)
    have hmade := Multiset.mem_of_le (fetchesFor_le name c) (Multiset.mem_coe.mpr hfetch)
    rw [hnone] at hmade
    exact absurd hmade (Multiset.notMem_zero r)

/-- How many links a task has still to count as duplicates, where all names are known. -/
inductive Owing (names : List String) : TaskPhase GuardedStore → Nat → Prop
  | fetching (phase : FetchPhase) : Owing names (.fetching phase) 0
  | checking {depth : Nat} {links : List CharacterLink} {found : List Request}
      (known : ∀ link ∈ links, link.name ∈ names) :
      Owing names (.reading (checkLinks depth links found)) links.length
  | passing {depth : Nat} {links : List CharacterLink} {found : List Request}
      (known : ∀ link ∈ links, link.name ∈ names) :
      Owing names (.reading (.count .duplicate (checkLinks depth links found))) (links.length + 1)
  | leaving (outcome : Outcome) : Owing names (.reading (.done outcome)) 0
  | ended (outcome : Outcome) : Owing names (.ended outcome) 0

variable {names : List String}

/-- A page above the characters owes all its links when it is handed over. -/
theorem owing_read {led : Response → Request → Prop} {p : Response}
    (staged : Staged start led p.request) (above : p.request.stage ≠ .character)
    (known : ∀ link ∈ listedOn p, link.name ∈ names) :
    Owing names (.reading (read p)) (listedOn p).length := by
  have hdeep := staged.nextDepth_eq
  cases staged with
  | bootstrap stage =>
    simp only [read, listedOn, stage, reduceCtorEq, if_false]
    exact .leaving _
  | pinyinIndex stage =>
    simp only [read, listedOn, stage, reduceCtorEq, if_false]
    exact .leaving _
  | characterList stage =>
    simp only [listedOn, stage, if_true] at known ⊢
    simp only [read, stage, hdeep]
    exact .checking known
  | character stage => exact absurd stage above

/-- A step of a reading leaves the store and the items, and counts what the reading owes less. -/
theorem readStep_owing {rest : Reading GuardedStore} {n : Nat} {w : World GuardedStore}
    (h : Owing names (.reading rest) n) (trusty : w.desk.store.Trusty)
    (stored : names ⊆ w.desk.store.store.names) :
    (readStep rest w).2.desk.store.store = w.desk.store.store ∧
      (readStep rest w).2.desk.stats.itemsStored = w.desk.stats.itemsStored ∧
      ∃ n', Owing names (readStep rest w).1 n' ∧
        (readStep rest w).2.desk.stats.duplicatesSkipped + n' =
          w.desk.stats.duplicatesSkipped + n := by
  cases h with
  | leaving outcome => exact ⟨rfl, rfl, 0, .ended outcome, rfl⟩
  | @passing depth links found known =>
    refine ⟨rfl, rfl, links.length, .checking known, ?_⟩
    simp only [readStep, World.note, Desk.note, Count.add, Stats.Tally.countDuplicate]
    omega
  | @checking depth links found known =>
    cases links with
    | nil => exact ⟨rfl, rfl, 0, .ended _, rfl⟩
    | cons link rest =>
      have hlink : link.name ∈ w.desk.store.store.names :=
        stored (known link List.mem_cons_self)
      have hphase : (readStep (checkLinks depth (link :: rest) found) w).1 =
          .reading (.count .duplicate (checkLinks depth rest found)) := by
        simp only [checkLinks, Reading.ask, readStep, trusty.knows_eq, hlink, decide_true]
      refine ⟨w.desk.store.knows_store link.name, rfl, rest.length + 1, ?_, rfl⟩
      rw [hphase]
      exact .passing fun l hl => known l (List.mem_cons_of_mem _ hl)

/-- What a step of a fetch owes then: the links of the page that it hands over. -/
theorem fetchStep_owing {t : Task GuardedStore} {phase : FetchPhase}
    (run : Run (spider start config) visited world c j) (ht : t ∈ c.tasks)
    (at_ : t.phase = .fetching phase) (above : t.request.stage ≠ .character)
    (known : ∀ p ∈ delivery? (spider start config) c.world t,
      ∀ link ∈ listedOn p, link.name ∈ names) :
    Owing names (taskStep (spider start config) t.request c.world t.phase).1
      ((delivery? (spider start config) c.world t).toList.map fun p =>
        (listedOn p).length).sum := by
  rcases taskStep_delivers (spider start config) c.world at_ with
    ⟨p, hpage, hphase⟩ | ⟨hnone, ⟨phase', hphase⟩ | ⟨outcome, hphase, _⟩⟩
  · have hrequest : p.request = t.request :=
      ((taskStep_sourced run.moves.sourced.1 (run.moves.sourced.2.1 t ht)).2 p hpage).2
    have hstaged := dispatched_staged run.moves (run.moves.dispatched_of_task ht)
    rw [← hrequest] at above hstaged
    simp only [hphase, hpage, Option.toList_some, List.map_cons, List.map_nil, List.sum_cons,
      List.sum_nil, Nat.add_zero]
    exact owing_read hstaged above (known p hpage)
  · rw [hphase, hnone]
    exact .fetching phase'
  · rw [hphase, hnone]
    exact .ended outcome

theorem countOutcome_duplicates (outcome : Outcome) (s : Stats) :
    (countOutcome outcome s).duplicatesSkipped = s.duplicatesSkipped := by
  unfold countOutcome
  split <;> rfl

/-- If all names listed were stored at first, every link of the pages read is counted as a duplicate
or owed by a task in flight. -/
theorem run_owing (run : Run (spider start config) visited world c j)
    (trusty : world.desk.store.Trusty)
    (known : ∀ p ∈ j.pages, ∀ link ∈ listedOn p, link.name ∈ world.desk.store.store.names) :
    ∃ ns, List.Forall₂ (fun n (t : Task GuardedStore) =>
        Owing world.desk.store.store.names t.phase n) ns c.tasks ∧
      c.world.desk.stats.duplicatesSkipped + ns.sum =
        world.desk.stats.duplicatesSkipped + (j.pages.map fun p => (listedOn p).length).sum := by
  refine run.balance (fun w => w.desk.stats.duplicatesSkipped)
    (Owing world.desk.store.store.names) (fun p => (listedOn p).length) (.fetching _) ?_ ?_
  · intro c j' t n run past ht busy owing
    have hextends := (run_requests run trusty).1
    cases hphase : t.phase with
    | ended outcome =>
      rw [hphase] at busy
      cases busy
    | reading rest =>
      rw [hphase] at owing
      obtain ⟨_, _, n', howing, hcount⟩ :=
        readStep_owing owing (hextends.trusty trusty) hextends.names
      have hnone : delivery? (spider start config) c.world t = none := by
        simp only [delivery?, hphase]
      rw [hnone]
      exact ⟨n', howing, hcount⟩
    | fetching phase =>
      rw [hphase] at owing
      cases owing
      have hpast : ∀ p ∈ j'.pages, ∀ link ∈ listedOn p,
          link.name ∈ world.desk.store.store.names :=
        fun p hp => known p (past (List.mem_append_left _ hp))
      have habove : t.request.stage ≠ .character := by
        rcases run_stages run trusty hpast _ (run.moves.dispatched_of_task ht) with h | h | h <;>
          simp [h]
      have howing := fetchStep_owing run ht hphase habove fun p hp =>
        known p (past (List.mem_append_right _ (Option.mem_toList.mpr hp)))
      rw [hphase] at howing
      refine ⟨_, howing, ?_⟩
      have hkept := congrArg (fun kept => kept.2.2.2)
        (c.world.fetchStep_kept (spider start config).config.retry.categories t.request phase)
      rw [taskStep_fetching_world, Nat.add_zero]
      exact congrArg (· + _) hkept
  · intro w outcome n owing
    cases owing
    exact countOutcome_duplicates outcome w.desk.stats

/-- If all names listed were stored at first, the store and the count of items stay. -/
theorem run_store (run : Run (spider start config) visited world c j)
    (trusty : world.desk.store.Trusty)
    (known : ∀ p ∈ j.pages, ∀ link ∈ listedOn p, link.name ∈ world.desk.store.store.names) :
    c.world.desk.store.store = world.desk.store.store ∧
      c.world.desk.stats.itemsStored = world.desk.stats.itemsStored := by
  have hview := run.constant (fun w => (w.desk.store.store, w.desk.stats.itemsStored)) ?_ ?_
  · exact ⟨congrArg Prod.fst hview, congrArg Prod.snd hview⟩
  · intro c j' t run past ht busy
    have hextends := (run_requests run trusty).1
    cases hphase : t.phase with
    | ended outcome => rfl
    | fetching phase =>
      have hspares := c.world.fetchStep_spares (spider start config).config.retry.categories
        t.request phase
      rw [taskStep_fetching_world, hspares.store, hspares.items]
    | reading rest =>
      obtain ⟨ns, howing, _⟩ := run_owing run trusty
        fun p hp => known p (past (List.mem_append_left _ hp))
      obtain ⟨before, after, heq⟩ := List.append_of_mem ht
      rw [heq] at howing
      obtain ⟨_, ns', _, _, hafter⟩ := forall₂_append_right howing
      obtain ⟨n, _, hn, _⟩ := List.forall₂_cons_right_iff.mp hafter
      rw [hphase] at hn
      obtain ⟨hstore, hitems, _⟩ := readStep_owing hn (hextends.trusty trusty) hextends.names
      exact Prod.ext hstore hitems
  · intro c j' t outcome _ _ _
    exact Prod.ext rfl (countOutcome_items outcome c.world.desk.stats)

variable {k : Crawler GuardedStore}

/-- A run fetches no character that is stored when it begins, whatever the site and the order in
which tasks end, over a store whose calls do not fail. If all the names that its list pages give are
stored by then, it asks for no page below the lists, leaves the store as it is, but for the table
that it makes where there was none, and the count of items, and once it is over it has counted every
link of its list pages as a duplicate. -/
theorem rerun_fetches_nothing_stored (running : k.Running (spider start config) c j)
    (reliable : ∀ call what, k.world.desk.store.fails call what = false) :
    (∀ name ∈ k.world.desk.store.store.names, fetchesFor name c = []) ∧
      ((∀ p ∈ j.pages, ∀ link ∈ listedOn p, link.name ∈ k.world.desk.store.store.names) →
        (∀ r ∈ c.dispatched,
          r.stage = .bootstrap ∨ r.stage = .pinyinIndex ∨ r.stage = .characterList) ∧
        (c.world.desk.store.store = k.world.desk.store.store ∨
          k.world.desk.store.store = .table none ∧ c.world.desk.store.store = .table (some [])) ∧
        c.world.desk.stats.itemsStored = k.world.desk.stats.itemsStored ∧
        (c.tasks = [] → c.world.desk.stats.duplicatesSkipped =
          k.world.desk.stats.duplicatesSkipped +
            (j.pages.map fun p => (listedOn p).length).sum)) := by
  obtain ⟨desk, counters, opened, run⟩ := running
  obtain ⟨hstats, hstore, htrusty⟩ := prepare_reliable opened reliable
  have hnames : desk.store.store.names = k.world.desk.store.store.names := by
    rw [hstore, EntryStore.ensureSchema_names]
  rw [← hnames, ← hstats]
  refine ⟨fun name known => ?_, fun known => ?_⟩
  · have hnone := (run_requests run htrusty).2 name known
    have hle := fetchesFor_le name c
    rw [hnone] at hle
    exact Multiset.coe_eq_zero _ |>.mp (Multiset.le_zero.mp hle)
  · obtain ⟨hsame, hitems⟩ := run_store run htrusty known
    obtain ⟨ns, howing, hcount⟩ := run_owing run htrusty known
    refine ⟨run_stages run htrusty known, ?_, hitems, fun quiet => ?_⟩
    · rw [hsame, hstore]
      exact k.world.desk.store.store.ensureSchema_cases
    · rw [quiet, List.forall₂_nil_right_iff] at howing
      rw [howing] at hcount
      exact hcount

/-- A list page that links a known character at two pages. -/
def knownListed : String :=
  "<div class=box_content><div><a href=/x title=阿></a><a href=/y title=阿>"

/-- The desk of the crawl of that page. -/
def rerunDesk : DictionaryDesk := (prepare (sampleSurveyor knownListed).world.desk).2

/-- What the crawl comes to by the clock. -/
def sampleRerun : TimedCrawl GuardedStore :=
  TimedCrawl.run (spider sampleHome {}) 30
    ((sampleSurveyor knownListed).timed (spider sampleHome {}) rerunDesk)

def rerunJournal : Journal :=
  (sampleSurveyor knownListed).journal (spider sampleHome {}) rerunDesk 30

theorem sampleRerun_running : (sampleSurveyor knownListed).Running (spider sampleHome {})
    sampleRerun.crawl rerunJournal := by
  have opened : (spider sampleHome {}).onOpen (sampleSurveyor knownListed).world.desk =
      (.ok (), rerunDesk) := rfl
  exact Crawler.running_timed _ _ 30 opened

/-- The crawl reads three pages, stores nothing and counts both links as duplicates. -/
theorem rerun_fetches_nothing_stored_sample :
    sampleRerun.crawl.tasks = [] ∧ sampleRerun.crawl.dispatched.length = 3 ∧
      fetchesFor "阿" sampleRerun.crawl = [] ∧
      sampleRerun.crawl.world.desk.store.store = .ofNames ["阿"] ∧
      sampleRerun.crawl.world.desk.stats.itemsStored = 0 ∧
      sampleRerun.crawl.world.desk.stats.duplicatesSkipped = 2 := by
  have computed : sampleRerun.crawl.tasks.isEmpty = true ∧
      sampleRerun.crawl.dispatched.length = 3 ∧
      (∀ p ∈ rerunJournal.pages, ∀ link ∈ listedOn p, link.name ∈ ["阿"]) ∧
      (rerunJournal.pages.map fun p => (listedOn p).length).sum = 2 := by
    decide +kernel
  obtain ⟨quiet, hlength, known, hlinks⟩ := computed
  have quiet := List.isEmpty_iff.mp quiet
  obtain ⟨hnone, hrerun⟩ :=
    rerun_fetches_nothing_stored sampleRerun_running fun _ _ => rfl
  obtain ⟨_, hstore, hitems, hcount⟩ := hrerun known
  refine ⟨quiet, hlength, hnone "阿" (by decide), ?_, hitems, (hcount quiet).trans ?_⟩
  · rcases hstore with hsame | ⟨absent, _⟩
    · exact hsame
    · cases absent
  · rw [hlinks]
    rfl

end SiteSpiders.Dictionary

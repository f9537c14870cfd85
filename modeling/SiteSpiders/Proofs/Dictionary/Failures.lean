import SiteSpiders.Proofs.Crawl.Isolation
import SiteSpiders.Proofs.Dictionary.Calls

/-!
# Failures of a store

A dictionary crawl survives every failure of its store. A failed call is counted once,
wherever it strikes; a character that could not be stored is one item less; and a link
leads on exactly if its check was answered and the name was absent. So whatever calls
fail, the crawl goes to its end.
-/
namespace SiteSpiders

theorem Count.storageErrors_add (what : Count) (s : Stats) :
    (what.add s).storageErrors = s.storageErrors + if what = .storageError then 1 else 0 := by
  cases what <;> rfl

theorem Count.itemsStored_add (what : Count) (s : Stats) :
    (what.add s).itemsStored = s.itemsStored + if what = .item then 1 else 0 := by
  cases what <;> rfl

/-- Whether the failures of a site are none of a store. -/
def Site.SparesStores (site : Site) : Prop :=
  ∀ earlier url fault, site.reply earlier url ≠ .error (.storage fault)

end SiteSpiders

namespace SiteSpiders.Dictionary

open Crawl

variable {start : Url} {config : Config} {visited : List String} {world : World GuardedStore}
  {c : Crawl GuardedStore} {j : Journal} {log : List Called}

/-- What a task is about to count. -/
def counting? : TaskPhase GuardedStore → Option Count
  | .reading (.count what _) => some what
  | _ => none

@[simp] theorem counting?_fetching (phase : FetchPhase) : counting? (.fetching phase) = none := rfl

@[simp] theorem counting?_ended (outcome : Outcome) : counting? (.ended outcome) = none := rfl

@[simp] theorem counting?_done (outcome : Outcome) :
    counting? (.reading (.done outcome)) = none := rfl

@[simp] theorem counting?_count (what : Count) (rest : Reading GuardedStore) :
    counting? (.reading (.count what rest)) = some what := rfl

@[simp] theorem counting?_checkLinks (depth : Nat) (links : List CharacterLink)
    (found : List Request) : counting? (.reading (checkLinks depth links found)) = none := by
  cases links <;> rfl

@[simp] theorem counting?_storeEntry (e : Entry) : counting? (.reading (storeEntry e)) = none := rfl

@[simp] theorem counting?_read (p : Response) : counting? (.reading (read p)) = none := by
  unfold read
  split
  · rfl
  · rfl
  · split <;> simp
  · split <;> simp
  · rfl

/-- Storage errors: a call that failed is counted in the next step of its task. -/
def errorAccount : Account Nat where
  shown s := s.storageErrors
  held _ phase := if counting? phase = some .storageError then 1 else 0
  taken _ := 0
  spent _ := 0
  due call := call.fails.toNat
  paid _ := 0

/-- The account of storage errors is kept, unless a task ends with one. -/
theorem errorAccount_kept : errorAccount.Kept fun outcome => outcome.isStorageError = false where
  new _ := rfl
  step := by
    intro t s s' phase calls page stepped
    have fetched : s'.kept = s.kept → s'.storageErrors = s.storageErrors :=
      fun same => congrArg (fun kept => kept.2.1) same
    cases stepped with
    | fetching at_ same => simp [errorAccount, at_, fetched same]
    | dropped at_ _ same => simp [errorAccount, at_, fetched same]
    | fetched at_ _ _ same => simp [errorAccount, at_, fetched same]
    | done at_ => simp [errorAccount, at_]
    | passed at_ => simp [errorAccount, at_, Count.storageErrors_add]
    | stored at_ => simp [errorAccount, at_, Count.storageErrors_add]
    | check at_ _ answer =>
      rcases answer with fault | known
      · simp [errorAccount, at_, Called.fails]
      · cases known <;> simp [errorAccount, at_, Called.fails]
    | insert at_ _ answer =>
      rcases answer with fault | _ <;> simp [errorAccount, at_, Called.fails]
  leave := by
    intro outcome request s plain
    simp [errorAccount, countOutcome_eq, plain, Stats.raise]

/-- Whether a task is about to insert an entry or to count it as stored. -/
def storing (request : Request) : TaskPhase GuardedStore → Bool
  | .reading (.count .item _) => true
  | .reading (.act _ _) => request.stage = .character
  | _ => false

section

variable (request : Request)

@[simp] theorem storing_fetching (phase : FetchPhase) :
    storing request (.fetching phase) = false := rfl

@[simp] theorem storing_ended (outcome : Outcome) : storing request (.ended outcome) = false := rfl

@[simp] theorem storing_done (outcome : Outcome) :
    storing request (.reading (.done outcome)) = false := rfl

@[simp] theorem storing_count (what : Count) (rest : Reading GuardedStore) :
    storing request (.reading (.count what rest)) = decide (what = .item) := by
  cases what <;> rfl

end

/-- Items: the page of a character is to be an item, unless its insertion fails. -/
def itemAccount : Account Nat where
  shown s := s.itemsStored
  held request phase := (storing request phase).toNat
  taken _ := 0
  spent call := call.failsToInsert.toNat
  due _ := 0
  paid p := (decide (p.request.stage = .character)).toNat

theorem storing_checkLinks {request : Request} (stage : request.stage = .characterList)
    (depth : Nat) (links : List CharacterLink) (found : List Request) :
    storing request (.reading (checkLinks depth links found)) = false := by
  cases links with
  | nil => rfl
  | cons link links => simp [storing, checkLinks, Reading.ask, stage]

theorem storing_storeEntry {request : Request} (stage : request.stage = .character) (e : Entry) :
    storing request (.reading (storeEntry e)) = true := by
  simp [storing, storeEntry, Reading.ask, stage]

/-- The page of a character is read by inserting its entry, other pages are not. -/
theorem storing_read {p : Response}
    (described : p.request.stage = .character → ∃ e, entryOf p = .ok e) :
    storing p.request (.reading (read p)) = decide (p.request.stage = .character) := by
  cases hstage : p.request.stage with
  | character =>
    obtain ⟨e, hentry⟩ := described hstage
    simp only [read, hstage, hentry, storing_storeEntry hstage, decide_true]
  | characterList =>
    simp only [read, hstage]
    split
    · rfl
    · rw [storing_checkLinks hstage]
      rfl
  | bootstrap => simp only [read, hstage]; rfl
  | pinyinIndex => simp only [read, hstage]; rfl
  | item => simp only [read, hstage]; rfl
  | custom name => simp only [read, hstage]; rfl

/-- The account of items is kept. -/
theorem itemAccount_kept : itemAccount.Kept fun _ => True where
  new _ := rfl
  step := by
    intro t s s' phase calls page stepped
    have fetched : s'.kept = s.kept → s'.itemsStored = s.itemsStored :=
      fun same => congrArg (fun kept => kept.2.2.1) same
    cases stepped with
    | fetching at_ same => simp [itemAccount, at_, fetched same]
    | dropped at_ _ same => simp [itemAccount, at_, fetched same]
    | @fetched _ _ p at_ own described same =>
      by_cases hstage : p.request.stage = .character <;>
        simp [itemAccount, at_, fetched same, ← own, storing_read described, hstage]
    | done at_ => simp [itemAccount, at_]
    | passed at_ stage other =>
      simp [itemAccount, at_, storing_checkLinks stage, Count.itemsStored_add, other]
    | @stored what at_ =>
      by_cases hitem : what = .item <;> simp [itemAccount, at_, Count.itemsStored_add, hitem]
    | check at_ stage answer =>
      rcases answer with fault | known
      · simp [itemAccount, at_, storing_checkLinks stage, Called.failsToInsert]
      · cases known <;> simp [itemAccount, at_, storing_checkLinks stage, Called.failsToInsert]
    | insert at_ stage answer =>
      rcases answer with fault | _ <;>
        simp [itemAccount, at_, storing_storeEntry stage, Called.failsToInsert]
  leave := by
    intro outcome request s _
    simp [itemAccount, countOutcome_eq, Stats.raise]

/-- The requests for characters among some. -/
def characters (requests : List Request) : Multiset Request :=
  ↑(requests.filter (·.stage = .character))

@[simp] theorem characters_nil : characters [] = 0 := rfl

@[simp] theorem characters_append (l l' : List Request) :
    characters (l ++ l') = characters l + characters l' := by
  simp [characters]

@[simp] theorem characters_characterRequest (depth : Nat) (link : CharacterLink) :
    characters [characterRequest depth link] = {characterRequest depth link} := by
  simp [characters, characterRequest]

@[simp] theorem foundOver_storeEntry (e : Entry) : foundOver deafDesk (storeEntry e) = [] := rfl

/-- Links: one whose name is absent makes a request, which its task takes to the engine. -/
def linkAccount : Account (Multiset Request) where
  shown _ := 0
  held _ phase := characters (foundBy deafDesk phase)
  taken outcome := characters ((followUps? outcome).getD [])
  spent _ := 0
  due call := ↑(call.absent?.toList.map (characterRequest 3))
  paid _ := 0

theorem characters_read (p : Response) : characters (foundOver deafDesk (read p)) = 0 := by
  refine (Multiset.coe_eq_zero _).mpr ?_
  by_cases hlist : p.request.stage = .characterList
  · simp only [read, hlist]
    split
    · rfl
    · rw [foundOver_deaf]
      rfl
  · refine List.filter_eq_nil_iff.mpr fun r hr => ?_
    simpa using foundOver_read_of_ne deafDesk hlist hr

/-- The account of links is kept. -/
theorem linkAccount_kept : linkAccount.Kept fun _ => True where
  new _ := rfl
  step := by
    intro t s s' phase calls page stepped
    cases stepped with
    | fetching at_ same => simp [linkAccount, at_, foundBy]
    | dropped at_ nowhere same => simp [linkAccount, at_, foundBy, nowhere]
    | fetched at_ _ _ _ => simp [linkAccount, at_, foundBy, characters_read]
    | done at_ => simp [linkAccount, at_, foundBy, foundOver]
    | passed at_ => simp [linkAccount, at_, foundBy, foundOver]
    | stored at_ => simp [linkAccount, at_, foundBy, foundOver]
    | check at_ _ answer =>
      simp only [linkAccount, at_, foundBy, foundOver_deaf]
      rcases answer with fault | known
      · simp [Called.absent?, foundOver]
      · cases known <;> simp [Called.absent?, foundOver]
    | insert at_ _ answer =>
      rcases answer with fault | _ <;>
        simp [linkAccount, at_, foundBy, foundOver, Called.absent?, followUps?]
  leave := by
    intro outcome request s _
    simp [linkAccount, foundBy]

/-! ## Whole runs -/

/-- A run on a crawler with the log of its calls, the one that opens the store first. -/
def LoggedOn (k : Crawler GuardedStore) (start : Url) (config : Config)
    (c : Crawl GuardedStore) (j : Journal) (log : List Called) : Prop :=
  ∃ desk counters later, prepare k.world.desk = (.ok (), desk) ∧
    log = .schema k.world.desk.store.ensureSchema.1 :: later ∧
    Logged start config k.visited { k.world with desk, counters } c j later

/-- A store is opened whatever it answers; its call is counted, and its failure if it fails. -/
theorem prepare_opens (desk : DictionaryDesk) :
    ∃ desk', prepare desk = (.ok (), desk') ∧
      desk'.store.calls = desk.store.calls + 1 ∧ desk'.store.fails = desk.store.fails ∧
      desk'.stats.storageErrors = desk.stats.storageErrors +
        (Called.schema desk.store.ensureSchema.1).fails.toNat ∧
      desk'.stats.itemsStored = desk.stats.itemsStored ∧
      (desk.store.refuses .schema = true →
        (Called.schema desk.store.ensureSchema.1).fails = true) := by
  have hcalls : desk.store.ensureSchema.2.calls = desk.store.calls + 1 ∧
      desk.store.ensureSchema.2.fails = desk.store.fails := by
    unfold GuardedStore.ensureSchema
    split_ifs <;> exact ⟨rfl, rfl⟩
  have hrefused : desk.store.refuses .schema = true →
      (Called.schema desk.store.ensureSchema.1).fails = true := by
    intro refuses
    simp [GuardedStore.ensureSchema, refuses, Called.fails]
  unfold prepare
  dsimp only
  cases hanswer : desk.store.ensureSchema.1 with
  | ok _ => exact ⟨_, rfl, hcalls.1, hcalls.2, rfl, rfl, hanswer ▸ hrefused⟩
  | error fault => exact ⟨_, rfl, hcalls.1, hcalls.2, rfl, rfl, hanswer ▸ hrefused⟩

theorem sum_map_toNat {α : Type} (p : α → Bool) (l : List α) :
    (l.map fun a => (p a).toNat).sum = l.countP p := by
  induction l with
  | nil => rfl
  | cons a l ih => cases h : p a <;> simp [h, ih, Nat.add_comm]

theorem characters_flatMap {α : Type} (f : α → List Request) (l : List α) :
    (l.map fun a => characters (f a)).sum = characters (l.flatMap f) := by
  induction l with
  | nil => rfl
  | cons a l ih => simp [ih]

theorem sum_absent (log : List Called) :
    (log.map linkAccount.due).sum = ↑((log.filterMap Called.absent?).map (characterRequest 3)) := by
  induction log with
  | nil => rfl
  | cons call log ih =>
    rw [List.map_cons, List.sum_cons, ih]
    cases h : call.absent? <;> simp [linkAccount, h]

/-- A run that spares stores has counted each failed call once, when no task is left. -/
theorem Logged.storageErrors (h : Logged start config visited world c j log)
    (spares : world.site.SparesStores) (quiet : c.tasks = []) :
    c.world.desk.stats.storageErrors =
      world.desk.stats.storageErrors + log.countP (·.fails) := by
  have settled : ∀ s ∈ j.settled, s.2.isStorageError = false := by
    intro s hs
    have honest := (moves_honest h.run.moves).2 s hs
    obtain ⟨request, outcome⟩ := s
    cases outcome with
    | failed fault =>
      obtain ⟨earlier, hreply⟩ := honest.2 fault rfl
      cases fault with
      | storage fault => exact absurd hreply (spares _ _ _)
      | _ => rfl
    | _ => rfl
  simpa [quiet, errorAccount, sum_map_toNat] using errorAccount_kept.balance h settled

/-- Every page of a character is an item or a failed insertion, when no task is left. -/
theorem Logged.itemsStored (h : Logged start config visited world c j log)
    (quiet : c.tasks = []) :
    c.world.desk.stats.itemsStored + log.countP (·.failsToInsert) =
      world.desk.stats.itemsStored + j.pages.countP fun p => p.request.stage = .character := by
  simpa [quiet, itemAccount, sum_map_toNat] using itemAccount_kept.balance h fun _ _ => trivial

/-- The characters asked for are the links answered to be absent, when no task is left. -/
theorem Logged.offers (h : Logged start config visited world c j log) (quiet : c.tasks = []) :
    ((j.offers.map (·.request)).filter (·.stage = .character)).Perm
      ((log.filterMap Called.absent?).map (characterRequest 3)) := by
  have balance := linkAccount_kept.balance h fun _ _ => trivial
  have hstart : characters (spider start config).startRequests = 0 := rfl
  have hoffers := h.run.moves.offers_eq
  rw [List.append_nil] at hoffers
  rw [← Multiset.coe_eq_coe, ← characters, hoffers, characters_append, hstart,
    ← characters_flatMap, ← sum_absent]
  simpa [quiet, linkAccount] using balance

/-- A log on a crawler holds the calls that its store counted, those that the plan of the store
refuses by their numbers among the failed ones. -/
theorem LoggedOn.calls {k : Crawler GuardedStore} (h : LoggedOn k start config c j log) :
    c.world.desk.store.calls = k.world.desk.store.calls + log.length ∧
      ∀ i call, log[i]? = some call →
        k.world.desk.store.fails (k.world.desk.store.calls + i) call.what = true →
        call.fails = true := by
  obtain ⟨desk, counters, later, opened, rfl, logged⟩ := h
  obtain ⟨desk', opened', hcalls, hfails, _, _, hrefused⟩ := prepare_opens k.world.desk
  obtain rfl : desk' = desk := (Prod.ext_iff.mp (opened'.symm.trans opened)).2
  obtain ⟨hcount, _, hlater⟩ := logged.calls
  simp only [hcalls, hfails] at hcount hlater
  refine ⟨by rw [hcount, List.length_cons]; omega, fun i call hcall refuses => ?_⟩
  cases i with
  | zero =>
    obtain rfl := Option.some.inj hcall
    exact hrefused refuses
  | succ i =>
    refine hlater i call hcall ?_
    rwa [Nat.add_right_comm, Nat.add_assoc]

/-- Closing leaves the counts. -/
theorem closed_counts (c : Crawl GuardedStore) :
    (c.closed (spider start config)).world.desk.stats.storageErrors =
        c.world.desk.stats.storageErrors ∧
      (c.closed (spider start config)).world.desk.stats.itemsStored =
        c.world.desk.stats.itemsStored := ⟨rfl, rfl⟩

/-- No failure of a store is fatal, whatever the site, the order in which tasks end and the calls
that fail. The crawl ends and returns well with its end noted. Its log holds the calls of the store
one by one, the refused ones as failures. Once no task is left, the storage errors have grown by one
for each failed call, unless the site itself fails as a store does; items stored and failed
insertions are together the pages of characters that were read; and the characters offered to the
engine are the links whose check was answered absent. -/
theorem dictionary_survives_store_failures (k : Crawler GuardedStore) (start : Url)
    (config : Config) :
    (∃ k', k.Returns (spider start config) (.ok ()) k') ∧
      (∀ result k', k.Returns (spider start config) result k' →
        result = .ok () ∧ k'.world.desk.stats.finished = true) ∧
      (∀ c j, k.Running (spider start config) c j →
        c.Ends (spider start config) ∧ (∀ t ∈ c.tasks, t.phase ≠ .ended .stop) ∧
          ∃ log, LoggedOn k start config c j log) ∧
      ∀ c j log, LoggedOn k start config c j log →
        c.world.desk.store.calls = k.world.desk.store.calls + log.length ∧
        (∀ i call, log[i]? = some call →
          k.world.desk.store.fails (k.world.desk.store.calls + i) call.what = true →
          call.fails = true) ∧
        (c.tasks = [] →
          k.Returns (spider start config) (.ok ()) (c.closed (spider start config)) ∧
          (k.world.site.SparesStores →
            (c.closed (spider start config)).world.desk.stats.storageErrors =
              k.world.desk.stats.storageErrors + log.countP (·.fails)) ∧
          (c.closed (spider start config)).world.desk.stats.itemsStored +
              log.countP (·.failsToInsert) =
            k.world.desk.stats.itemsStored +
              j.pages.countP (fun p => p.request.stage = .character) ∧
          ((j.offers.map (·.request)).filter (·.stage = .character)).Perm
            ((log.filterMap Called.absent?).map (characterRequest 3))) := by
  obtain ⟨desk, opened, _, _, herrors, hitems, _⟩ := prepare_opens k.world.desk
  have opened' : (spider start config).onOpen k.world.desk = (.ok (), desk) := opened
  have first : k.Running (spider start config) _ _ := ⟨desk, {}, opened', .start⟩
  refine ⟨first.exists_return (run_ends .start).halts, fun result k' h => h.ok opened', ?_, ?_⟩
  · rintro c j ⟨desk', counters, opened, run⟩
    obtain ⟨log, logged⟩ := exists_logged run
    refine ⟨run_ends run, fun t ht stops => ?_, _, desk', counters, log, opened, rfl, logged⟩
    have honest := (moves_honest run.moves).1 t ht
    rw [stops] at honest
    exact honest.1 rfl
  · intro c j log loggedOn
    refine ⟨loggedOn.calls.1, loggedOn.calls.2, fun quiet => ?_⟩
    obtain ⟨desk', counters, later, opened, rfl, logged⟩ := loggedOn
    obtain rfl : desk = desk' := (Prod.ext_iff.mp (opened'.symm.trans opened)).2
    refine ⟨.finished ⟨desk, counters, opened, logged.run⟩ (Or.inl ⟨quiet, logged.run.idle quiet⟩),
      fun spares => ?_, ?_, ?_⟩
    · have hlater : (c.closed (spider start config)).world.desk.stats.storageErrors =
          desk.stats.storageErrors + later.countP (·.fails) := logged.storageErrors spares quiet
      have hfirst : (Called.schema k.world.desk.store.ensureSchema.1).fails.toNat =
          if (Called.schema k.world.desk.store.ensureSchema.1).fails then 1 else 0 := by
        cases (Called.schema k.world.desk.store.ensureSchema.1).fails <;> rfl
      rw [hlater, herrors, hfirst, List.countP_cons]
      omega
    · exact (logged.itemsStored quiet).trans (congrArg (· + _) hitems)
    · exact logged.offers quiet

/-- A crawler whose store refuses to be opened and fails the third check. -/
def unsteadyKeeper : Crawler GuardedStore where
  world :=
    { site := sampleSite variouslyListed
      desk := { store := { fails := fun call _ => call == 0 || call == 3 } } }

/-- What a crawl of the sample site comes to by the clock. -/
def unsteadyCrawl : Crawl GuardedStore :=
  (TimedCrawl.run (spider sampleHome {}) 50 (unsteadyKeeper.timed (spider sampleHome {})
    (prepare unsteadyKeeper.world.desk).2)).crawl

def unsteadyJournal : Journal :=
  unsteadyKeeper.journal (spider sampleHome {}) (prepare unsteadyKeeper.world.desk).2 50

/-- The character at two pages is stored once and refused once, the other one is not asked for: one
item and three failures in six calls. -/
theorem dictionary_survives_store_failures_sample :
    unsteadyCrawl.tasks = [] ∧ unsteadyCrawl.world.desk.stats.storageErrors = 3 ∧
      unsteadyCrawl.world.desk.stats.itemsStored = 1 ∧
      ∃ log, LoggedOn unsteadyKeeper sampleHome {} unsteadyCrawl unsteadyJournal log ∧
        log.length = 6 ∧ log.countP (·.fails) = 3 ∧ log.countP (·.failsToInsert) = 1 ∧
        (log.filterMap Called.absent?).length = 2 := by
  have computed : unsteadyCrawl.tasks.isEmpty = true ∧
      unsteadyCrawl.world.desk.stats.storageErrors = 3 ∧
      unsteadyCrawl.world.desk.stats.itemsStored = 1 ∧
      unsteadyCrawl.world.desk.store.calls = 6 ∧
      unsteadyJournal.pages.countP (fun p => p.request.stage = .character) = 2 ∧
      ((unsteadyJournal.offers.map (·.request)).filter (·.stage = .character)).length = 2 := by
    decide +kernel
  obtain ⟨quiet, errors, items, calls, pages, offers⟩ := computed
  have quiet := List.isEmpty_iff.mp quiet
  have opened : (spider sampleHome {}).onOpen unsteadyKeeper.world.desk =
      (.ok (), (prepare unsteadyKeeper.world.desk).2) := rfl
  have running : unsteadyKeeper.Running (spider sampleHome {}) unsteadyCrawl unsteadyJournal :=
    Crawler.running_timed _ _ 50 opened
  obtain ⟨_, _, logs, accounts⟩ := dictionary_survives_store_failures unsteadyKeeper sampleHome {}
  obtain ⟨_, _, log, logged⟩ := logs _ _ running
  obtain ⟨hcalls, _, ended⟩ := accounts _ _ _ logged
  obtain ⟨_, herrors, hitems, hoffers⟩ := ended quiet
  have spares : unsteadyKeeper.world.site.SparesStores := fun _ _ _ hreply => by cases hreply
  have herrors := herrors spares
  have hlength := hoffers.length_eq
  have begun : unsteadyKeeper.world.desk.store.calls = 0 ∧
      unsteadyKeeper.world.desk.stats.storageErrors = 0 ∧
      unsteadyKeeper.world.desk.stats.itemsStored = 0 := ⟨rfl, rfl, rfl⟩
  rw [calls, begun.1] at hcalls
  rw [(closed_counts _).1, errors, begun.2.1] at herrors
  rw [(closed_counts _).2, items, begun.2.2, pages] at hitems
  rw [List.length_map, offers] at hlength
  exact ⟨quiet, errors, items, log, logged, by omega, by omega, by omega, hlength.symm⟩

end SiteSpiders.Dictionary

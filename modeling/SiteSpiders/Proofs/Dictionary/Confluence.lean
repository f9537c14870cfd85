import Mathlib.Data.List.Perm.Subperm
import SiteSpiders.Proofs.Dictionary.Steady

/-!
# Dictionary crawls are confluent

On a steady site with a coherent territory the order in which tasks go on does not
matter: every run ends, it has fetched the addresses of the territory, and its store has
grown by one entry for every character of the territory whose page is read.
-/
namespace SiteSpiders.Dictionary

open Crawl

/-- The entries that a territory yields, each once. -/
def Territory.harvest (T : Territory) : List (String × Entry) :=
  ((T.wanted.filter T.opens).filterMap fun q =>
    (carried q).map fun name => (name, .ofDetail name (.ofText (T.body q)))).dedup

/-- A new crawl of a territory: the site answers steadily, the store is a memory whose names are
the known ones and whose calls do not fail, nothing has been visited, addresses are visited once
and deep enough, delays can be waited for, and the byte count can hold the pages. -/
structure Setting (T : Territory) (config : Config) (visited : List String)
    (world : World GuardedStore) (es : List (String × Entry)) : Prop where
  steady : world.site.Steady T.page
  accepts : T.accepts = config.accepts
  memory : world.desk.store.store = .memory es
  known : T.known = es.map Prod.fst
  fails : ∀ call what, world.desk.store.fails call what = false
  fresh : visited = []
  once : config.revisit = false
  deep : 4 ≤ config.maxDepth
  patient : config.retry.Patient
  room : world.desk.stats.bytesDownloaded +
    (T.reach.map fun address => Text.utf8Length (T.page address).2).sum < wordBound

/-- What a crawl of a territory keeps to: it asks for requests of the territory only, and every
task in flight or settled knows what it is about. -/
structure Surveyed (T : Territory) (c : Crawl GuardedStore) (hand : List Request) (j : Journal)
    (es : List (String × Entry)) : Prop where
  ready : Ready T c.world.desk.store es
  held : ∀ r ∈ hand, r ∈ T.emitted
  queued : ∀ r ∈ c.frontier.pending, r ∈ T.wanted
  asked : ∀ r ∈ c.dispatched, r ∈ T.wanted
  tasks : ∀ t ∈ c.tasks, Standing T (es.map Prod.fst) t.request t.phase
  settled : ∀ s ∈ j.settled, Finished T (es.map Prod.fst) s.1 s.2

variable {T : Territory} {config : Config} {visited : List String} {world : World GuardedStore}
  {es es' : List (String × Entry)} {c : Crawl GuardedStore} {hand : List Request} {j : Journal}

theorem Territory.inside_iff (T : Territory) (config : Config) (r : Request) :
    T.inside r = true ↔
      ∀ domains ∈ (spider T.start config).domains, domainAllowed r.url domains = true := by
  simp only [Territory.inside, spider]
  cases domainsOf T.start <;> simp

/-- The sizes of different pages of the territory are within the sizes of all its pages. -/
theorem Territory.sum_size_le {l : List Request} (hnodup : (l.map (·.url.text)).Nodup)
    (hwanted : ∀ r ∈ l, r ∈ T.wanted) :
    (l.map fun r => Text.utf8Length (T.body r)).sum ≤
      (T.reach.map fun address => Text.utf8Length (T.page address).2).sum := by
  have hsub : l.map (·.url.text) ⊆ T.reach := by
    intro u hu
    obtain ⟨r, hr, rfl⟩ := List.mem_map.mp hu
    exact List.mem_dedup.mpr (List.mem_map_of_mem (hwanted r hr))
  obtain ⟨l', hperm, hsublist⟩ := hnodup.subperm hsub
  have hsize := (hperm.map fun address => Text.utf8Length (T.page address).2).sum_eq
  rw [List.map_map] at hsize
  calc (l.map fun r => Text.utf8Length (T.body r)).sum
      = (l'.map fun address => Text.utf8Length (T.page address).2).sum := hsize.symm
    _ ≤ _ := (hsublist.map _).sum_le_sum fun _ _ => Nat.zero_le _

theorem Setting.dispatched_nodup (setting : Setting T config visited world es)
    (h : Moves (spider T.start config) visited world c hand j) :
    (c.dispatched.map (·.url.text)).Nodup := by
  have hadm := (h.admitted_nodup setting.once).1
  rw [← h.queue_eq, List.map_append, List.map_reverse] at hadm
  exact List.nodup_reverse.mp (List.nodup_append.mp hadm).1

namespace Surveyed

variable {r : Request} {rest : List Request} {before after : List (Task GuardedStore)}
  {t : Task GuardedStore} {outcome : Outcome} {requests : List Request}

/-- A request that enters the queue is inside the domain. -/
theorem offer (h : Surveyed T c (r :: rest) j es) (offers : List Offer) :
    Surveyed T
      { c with
        frontier := c.frontier.offer (spider T.start config).config
          (spider T.start config).domains r }
      rest (j.offered offers) es := by
  refine ⟨h.ready, fun r hr => h.held r (List.mem_cons_of_mem _ hr), ?_, h.asked, h.tasks,
    h.settled⟩
  have hr := h.held r List.mem_cons_self
  cases hadm : c.frontier.admits (spider T.start config).config (spider T.start config).domains r
  with
  | false =>
    rw [Frontier.offer_of_not_admits _ _ _ _ hadm]
    exact h.queued
  | true =>
    rw [Frontier.offer_of_admits _ _ _ _ hadm]
    have heligible := (Frontier.offerOf_admitted_iff c.frontier r (spider T.start config)).mp hadm
    intro q hq
    rw [Frontier.push_pending, List.mem_append, List.mem_singleton] at hq
    rcases hq with hq | rfl
    · exact h.queued q hq
    · exact Territory.wanted_of_emitted hr ((T.inside_iff config _).mpr heligible.2.1)

theorem start (h : Surveyed T c hand j es) (next : c.frontier.pending = r :: rest) :
    Surveyed T (c.start r rest) hand j es := by
  have hqueued := h.queued
  rw [next] at hqueued
  refine ⟨h.ready, h.held, fun q hq => hqueued q (List.mem_cons_of_mem _ hq), ?_, ?_, h.settled⟩
  · intro q hq
    rw [start_dispatched, List.mem_cons] at hq
    rcases hq with rfl | hq
    · exact hqueued _ List.mem_cons_self
    · exact h.asked q hq
  · intro t ht
    rw [start_tasks, List.mem_append, List.mem_singleton] at ht
    rcases ht with ht | rfl
    · exact h.tasks t ht
    · trivial

theorem wanted_of_at (h : Surveyed T c hand j es)
    (moves : Moves (spider T.start config) visited world c [] j)
    (at_ : c.tasks = before ++ t :: after) : t.request ∈ T.wanted := by
  have hmem : t ∈ c.tasks := by simp [at_]
  exact h.asked _ (List.mem_reverse.mp (moves.tasks_sublist.subset (List.mem_map_of_mem hmem)))

/-- The byte count has room for the page that has arrived for a task. -/
theorem room_for_page (h : Surveyed T c hand j es) (setting : Setting T config visited world es')
    (moves : Moves (spider T.start config) visited world c [] j)
    (at_ : c.tasks = before ++ t :: after) {answer : Arrival}
    (hphase : t.phase = .fetching (.arriving answer)) :
    c.world.desk.stats.bytesDownloaded + Text.utf8Length (T.body t.request) < wordBound := by
  have hbytes := moves_bytes_le setting.steady moves
  have hsizes := Territory.sum_size_le (setting.dispatched_nodup moves) h.asked
  have hroom := setting.room
  have hload : loading T t.request t.phase = Text.utf8Length (T.body t.request) := by
    rw [hphase]
    rfl
  simp only [at_, List.map_append, List.map_cons, List.sum_append, List.sum_cons, hload]
    at hbytes
  omega

theorem advance (h : Surveyed T c [] j es) (setting : Setting T config visited world es')
    (moves : Moves (spider T.start config) visited world c [] j)
    (at_ : c.tasks = before ++ t :: after) :
    ∃ es'', Surveyed T
      { c with
        world := (taskStep (spider T.start config) t.request c.world t.phase).2.2
        tasks := before ++ { t with
          phase := (taskStep (spider T.start config) t.request c.world t.phase).1 } :: after }
      [] (j.advanced (delivery? (spider T.start config) c.world t)) es'' := by
  have hproper := Territory.emitted_proper (List.mem_filter.mp (h.wanted_of_at moves at_)).1
  have hsteady : c.world.site.Steady T.page := by
    rw [moves.sourced.1]
    exact setting.steady
  obtain ⟨es'', hready, hsub, hstands⟩ := taskStep_stands hproper setting.accepts setting.patient
    hsteady (fun _ => h.room_for_page setting moves at_) h.ready (h.tasks t (by simp [at_]))
  refine ⟨es'', hready, h.held, h.queued, h.asked, ?_, fun s hs => (h.settled s hs).mono hsub⟩
  intro u hu
  rcases eq_or_mem_others hu with rfl | hu
  · exact hstands
  · exact (h.tasks u ((others_sublist at_).subset hu)).mono hsub

theorem settle (h : Surveyed T c [] j es)
    (moves : Moves (spider T.start config) visited world c [] j)
    (at_ : c.tasks = before ++ t :: after) (ended : t.phase = .ended outcome)
    (goes : followUps? outcome = some requests) :
    Surveyed T { c with world := c.world.note (countOutcome outcome), tasks := before ++ after }
      requests (j.left t.request outcome) es := by
  have hwanted := h.wanted_of_at moves at_
  have hfinished : Finished T (es.map Prod.fst) t.request outcome := by
    have h := h.tasks t (by simp [at_])
    rwa [ended] at h
  refine ⟨h.ready, ?_, h.queued, h.asked,
    fun u hu => h.tasks u ((others_sublist at_).subset hu), ?_⟩
  · intro r hr
    obtain ⟨requests', hfollow, hleads, _⟩ := hfinished.follows
    obtain rfl : requests = requests' := Option.some.inj (goes.symm.trans hfollow)
    exact Territory.leads_emitted hwanted (hleads r hr).1 (hleads r hr).2
  · intro s hs
    rw [Journal.left_settled, List.mem_append, List.mem_singleton] at hs
    rcases hs with hs | rfl
    · exact h.settled s hs
    · exact hfinished

end Surveyed

/-- A crawl of a territory keeps to it. -/
theorem moves_surveyed (setting : Setting T config visited world es)
    (h : Moves (spider T.start config) visited world c hand j) :
    ∃ es', Surveyed T c hand j es' := by
  induction h with
  | begin_ =>
    refine ⟨es, ⟨setting.memory, setting.fails, fun _ hname => setting.known ▸ hname⟩, ?_, ?_, ?_,
      ?_, ?_⟩
    · intro r hr
      obtain rfl : r = Request.start T.start := by simpa [spider] using hr
      exact T.start_emitted
    all_goals simp
  | offer _ ih =>
    obtain ⟨es', ih⟩ := ih
    exact ⟨es', ih.offer _⟩
  | start _ next _ ih =>
    obtain ⟨es', ih⟩ := ih
    exact ⟨es', ih.start next⟩
  | advance moves at_ _ ih =>
    obtain ⟨es', ih⟩ := ih
    exact ih.advance setting moves at_
  | settle moves at_ ended goes ih =>
    obtain ⟨es', ih⟩ := ih
    exact ⟨es', ih.settle moves at_ ended goes⟩

/-- A request of the territory that was offered inside the domain entered the queue, or another for
its address did. -/
theorem Setting.admitted_of_offered (setting : Setting T config visited world es)
    (h : Moves (spider T.start config) visited world c hand j) {r : Request}
    (hr : r ∈ j.offers.map (·.request)) (hproper : T.Proper r) (inside : T.inside r = true) :
    r.url.text ∈ j.admitted.map (·.url.text) := by
  obtain ⟨o, ho, rfl⟩ := List.mem_map.mp hr
  have hadm : ∀ p ∈ j.offers, p.Eligible (spider T.start config) → p.request ∈ j.admitted := by
    intro p hp heligible
    exact List.mem_map_of_mem (List.mem_filter.mpr ⟨hp, (h.admitted_iff p hp).mpr heligible⟩)
  by_cases heligible : o.Eligible (spider T.start config)
  · exact List.mem_map_of_mem (hadm o ho heligible)
  · -- it is neither too deep nor outside, so its address was known
    have hdepth : o.request.depth < (spider T.start config).config.maxDepth := by
      have hdeep : 4 ≤ (spider T.start config).config.maxDepth := setting.deep
      have hle : o.request.depth ≤ 3 := by
        generalize o.request = q at hproper
        cases hproper <;> simp [characterRequest]
      omega
    have hknown : o.request.url.text ∈ o.known := by
      by_contra hnot
      exact heligible ⟨hdepth, (T.inside_iff config _).mp inside, fun _ => hnot⟩
    obtain ⟨before, after, at_⟩ := List.append_of_mem ho
    rcases (h.known_iff at_ _).mp hknown with hvisited | ⟨p, hp, hp', htext⟩
    · rw [setting.fresh] at hvisited
      cases hvisited
    · rw [← htext]
      exact List.mem_map_of_mem (f := fun q : Request => q.url.text)
        (hadm p (at_ ▸ List.mem_append_left _ hp) hp')

/-- A new entry is that of a dispatched request for a character whose page is read. -/
theorem Setting.dispatched_of_described (setting : Setting T config visited world es)
    (h : Moves (spider T.start config) visited world c hand j) {p : Response} {e : Entry}
    (hp : p ∈ j.pages) (described : Describes p e) :
    ∃ q ∈ c.dispatched, T.opens q = true ∧ carried q = some e.name ∧
      e = .ofDetail e.name (.ofText (T.body q)) := by
  obtain ⟨hfetched, hdispatched⟩ := h.sourced.2.2.2 p hp
  obtain ⟨_, hstatus, hbody⟩ := hfetched.steady setting.steady
  obtain ⟨name, hnamed, hentry⟩ := described.named h hp
  have hopens : T.opens p.request = true := by
    rw [Territory.opens, setting.accepts, ← hstatus]
    exact hfetched.1
  have hcarried : carried p.request = some name := by
    simp [carried, hnamed.2.2.1, readName_nameNote, Except.toOption]
  have hname : e.name = name := by rw [hentry]; rfl
  refine ⟨p.request, hdispatched, hopens, hname ▸ hcarried, ?_⟩
  rw [hname, Territory.body, ← hbody]
  exact hentry

/-- When a run is over, every request that the territory wants was dispatched. -/
theorem Setting.wanted_dispatched (setting : Setting T config visited world es)
    (hkeyed : Keyed es) (coherent : T.Coherent)
    (h : Moves (spider T.start config) visited world c [] j) (quiet : c.tasks = [])
    (idle : c.frontier.pending = []) {q : Request} (hq : q ∈ T.emitted)
    (inside : T.inside q = true) : q ∈ c.dispatched := by
  obtain ⟨es', surveyed⟩ := moves_surveyed setting h
  obtain ⟨new, hstore, hkeyed', _, hnew⟩ := moves_grow h setting.memory hkeyed
  have hes : es' = es ++ new := EntryStore.memory.inj (surveyed.ready.memory.symm.trans hstore)
  have hadmitted : ∀ u, u ∈ j.admitted.map (·.url.text) → u ∈ c.dispatched.map (·.url.text) := by
    intro u hu
    rw [← h.queue_eq, idle, List.append_nil, List.map_reverse] at hu
    exact List.mem_reverse.mp hu
  -- a request of the territory is known by its address
  have hsame : ∀ {r : Request}, r ∈ T.emitted → T.inside r = true →
      r.url.text ∈ c.dispatched.map (·.url.text) → r ∈ c.dispatched := by
    intro r hr inside hmem
    obtain ⟨r', hr', htext⟩ := List.mem_map.mp hmem
    have heq := coherent.eq_of_text (surveyed.asked r' hr')
      (Territory.wanted_of_emitted hr inside) htext
    exact heq ▸ hr'
  have hoffered : ∀ {r : Request}, r ∈ T.emitted → T.inside r = true →
      r ∈ j.offers.map (·.request) → r ∈ c.dispatched := by
    intro r hr inside hoffers
    exact hsame hr inside (hadmitted _
      (setting.admitted_of_offered h hoffers (Territory.emitted_proper hr) inside))
  have hoffers := h.offers_eq
  rw [List.append_nil] at hoffers
  refine Territory.emitted_induction (P := fun q => T.inside q = true → q ∈ c.dispatched) ?_ ?_ hq
    inside
  · intro inside
    refine hoffered T.start_emitted inside ?_
    rw [hoffers]
    simp [spider]
  · intro p hp opens ih r hr inside
    have hremitted := Territory.leads_emitted hp opens hr
    have hdispatched := ih (List.mem_filter.mp hp).2
    have hsettled : p ∈ j.settled.map Prod.fst := by
      have hperm := h.settled_perm
      rw [quiet, List.map_nil, List.append_nil] at hperm
      exact hperm.mem_iff.mpr hdispatched
    obtain ⟨⟨p', outcome⟩, hs, rfl⟩ := List.mem_map.mp hsettled
    obtain ⟨requests, hfollow, _, hall⟩ := (surveyed.settled _ hs).follows
    rcases hall opens r hr with hmem | ⟨name, hname, hcarried⟩
    · refine hoffered hremitted inside ?_
      rw [hoffers]
      refine List.mem_append_right _ (List.mem_flatMap.mpr ⟨_, hs, ?_⟩)
      rw [hfollow]
      exact hmem
    · -- the name is stored by now, so another request for it was dispatched
      have hwanted := Territory.wanted_of_emitted hremitted inside
      have hnotknown : name ∉ es.map Prod.fst := by
        rw [← setting.known]
        exact ((Territory.emitted_proper hremitted).of_carried hcarried).2
      rw [hes, List.map_append, List.mem_append] at hname
      obtain ⟨kv, hkv, hkey⟩ := List.mem_map.mp (hname.resolve_left hnotknown)
      obtain ⟨page, hpage, described⟩ := hnew kv hkv
      obtain ⟨q', hq', _, hcarried', _⟩ := setting.dispatched_of_described h hpage described
      have hkeyname : kv.2.name = name := by
        rw [← hkeyed'.key kv (List.mem_append_right _ hkv), hkey]
      have htext := coherent.place q' (surveyed.asked q' hq') r hwanted name
        (hkeyname ▸ hcarried') hcarried
      exact hsame hremitted inside (htext ▸ List.mem_map_of_mem hq')

theorem Territory.mem_harvest (T : Territory) (kv : String × Entry) :
    kv ∈ T.harvest ↔ ∃ q ∈ T.wanted, T.opens q = true ∧ carried q = some kv.1 ∧
      kv.2 = .ofDetail kv.1 (.ofText (T.body q)) := by
  simp only [Territory.harvest, List.mem_dedup, List.mem_filterMap, List.mem_filter,
    Option.map_eq_some_iff, and_assoc]
  constructor
  · rintro ⟨q, hq, hopens, name, hname, rfl⟩
    exact ⟨q, hq, hopens, hname, rfl⟩
  · rintro ⟨q, hq, hopens, hname, hentry⟩
    exact ⟨q, hq, hopens, kv.1, hname, by rw [← hentry]⟩

/-- When a run is over, the store has grown by the harvest of the territory. -/
theorem Setting.harvested (setting : Setting T config visited world es) (hkeyed : Keyed es)
    (coherent : T.Coherent)
    (h : Moves (spider T.start config) visited world c [] j) (quiet : c.tasks = [])
    (idle : c.frontier.pending = []) :
    ∃ new, c.world.desk.store.store = .memory (es ++ new) ∧ Keyed (es ++ new) ∧
      new.Perm T.harvest := by
  obtain ⟨es', surveyed⟩ := moves_surveyed setting h
  obtain ⟨new, hstore, hkeyed', _, hnew⟩ := moves_grow h setting.memory hkeyed
  have hes : es' = es ++ new := EntryStore.memory.inj (surveyed.ready.memory.symm.trans hstore)
  have hmem : ∀ kv ∈ new, ∃ q ∈ T.wanted, T.opens q = true ∧ carried q = some kv.1 ∧
      kv.2 = .ofDetail kv.1 (.ofText (T.body q)) := by
    intro kv hkv
    obtain ⟨page, hpage, described⟩ := hnew kv hkv
    obtain ⟨q, hq, hopens, hcarried, hentry⟩ := setting.dispatched_of_described h hpage described
    have hkey := hkeyed'.key kv (List.mem_append_right _ hkv)
    rw [← hkey] at hcarried hentry
    exact ⟨q, surveyed.asked q hq, hopens, hcarried, hentry⟩
  have hnodup : (new.map Prod.fst).Nodup := by
    have hkeys := hkeyed'.nodup
    rw [List.map_append] at hkeys
    exact (List.nodup_append.mp hkeys).2.1
  refine ⟨new, hstore, hkeyed', ?_⟩
  have hharvest : T.harvest.Nodup := List.nodup_dedup _
  rw [List.perm_ext_iff_of_nodup hnodup.of_map hharvest]
  intro kv
  rw [T.mem_harvest]
  refine ⟨hmem kv, ?_⟩
  rintro ⟨q, hq, hopens, hcarried, hentry⟩
  obtain ⟨hemitted, inside⟩ := List.mem_filter.mp hq
  have hproper := (Territory.emitted_proper hemitted).of_carried hcarried
  -- its task was settled, so its name is stored
  have hdispatched := setting.wanted_dispatched hkeyed coherent h quiet idle hemitted inside
  have hsettled : q ∈ j.settled.map Prod.fst := by
    have hperm := h.settled_perm
    rw [quiet, List.map_nil, List.append_nil] at hperm
    exact hperm.mem_iff.mpr hdispatched
  obtain ⟨⟨q', outcome⟩, hs, rfl⟩ := List.mem_map.mp hsettled
  have hkeys := (surveyed.settled _ hs).keeps hopens hproper.1 _ hcarried
  rw [hes, List.map_append, List.mem_append, ← setting.known] at hkeys
  obtain ⟨kv', hkv', hkey⟩ := List.mem_map.mp (hkeys.resolve_left hproper.2)
  -- the entry under that name was read from the same page
  obtain ⟨r, hr, _, hcarried', hentry'⟩ := hmem kv' hkv'
  have htext := coherent.place r hr q' hq kv.1 (hkey ▸ hcarried') hcarried
  obtain rfl := coherent.eq_of_text hr hq htext
  have hsame : kv' = kv := by
    refine Prod.ext hkey ?_
    rw [hentry', hentry, hkey]
  exact hsame ▸ hkv'

/-- The steps of reading the page of a request. -/
def Territory.steps (T : Territory) (q : Request) : Nat :=
  2 * (characterLinks (Html.parse (T.body q)) q.url).length + 3

theorem within_mono {n m : Nat} {reading : Reading GuardedStore} (h : reading.Within n)
    (le : n ≤ m) : reading.Within m := by
  induction h generalizing m with
  | done =>
    obtain ⟨m, rfl⟩ := Nat.exists_eq_add_of_le' (Nat.le_trans (Nat.le_add_left 1 _) le)
    exact .done
  | act _ ih =>
    obtain ⟨m, rfl⟩ := Nat.exists_eq_add_of_le' (Nat.le_trans (Nat.le_add_left 1 _) le)
    exact .act fun d => ih d (Nat.le_of_succ_le_succ le)
  | count _ ih =>
    obtain ⟨m, rfl⟩ := Nat.exists_eq_add_of_le' (Nat.le_trans (Nat.le_add_left 1 _) le)
    exact .count (ih (Nat.le_of_succ_le_succ le))

theorem checkLinks_within (depth : Nat) (links : List CharacterLink) (found : List Request) :
    (checkLinks depth links found).Within (2 * links.length + 1) := by
  induction links generalizing found with
  | nil => exact .done
  | cons link rest ih =>
    refine .act fun d => ?_
    simp only
    split
    · exact within_mono (ih _) (by simp only [List.length_cons]; omega)
    · exact .count (ih _)
    · exact .count (ih _)

/-- A page is read within two steps for each character it lists, and three more. -/
theorem read_within (p : Response) :
    (read p).Within (2 * (characterLinks (Html.parse p.body) p.url).length + 3) := by
  have hdone : ∀ {n : Nat} {outcome : Outcome},
      (Reading.done outcome : Reading GuardedStore).Within (n + 3) := .done
  unfold read
  split
  · exact hdone
  · exact hdone
  · split
    · exact hdone
    · exact within_mono (checkLinks_within _ _ _) (by omega)
  · split
    · exact hdone
    · refine .act fun d => ?_
      simp only
      split <;> exact .count .done
  · exact hdone

/-- A run makes no more moves than the territory allows. -/
theorem Setting.moves_le (setting : Setting T config visited world es)
    (h : Moves (spider T.start config) visited world c hand j) :
    j.moves ≤ (T.wanted.map (charge (spider T.start config) T.steps)).sum := by
  have hbounded : ∀ p : Response, p.FetchedFor (spider T.start config) world.site →
      ((spider T.start config).read p).Within (T.steps p.request) := by
    intro p hfetched
    obtain ⟨hurl, _, hbody⟩ := hfetched.steady setting.steady
    have hread := read_within p
    rw [hbody, hurl] at hread
    exact hread
  obtain ⟨es', surveyed⟩ := moves_surveyed setting h
  obtain ⟨l, hperm, hsub⟩ := (setting.dispatched_nodup h).of_map.subperm surveyed.asked
  calc j.moves ≤ (c.dispatched.map (charge (spider T.start config) T.steps)).sum :=
        h.moves_le setting.once hbounded
    _ = (l.map (charge (spider T.start config) T.steps)).sum := (hperm.map _).sum_eq.symm
    _ ≤ _ := (hsub.map _).sum_le_sum fun _ _ => Nat.zero_le _

theorem Setting.opened (setting : Setting T config visited world es) {desk : DictionaryDesk}
    (opened : prepare world.desk = (.ok (), desk)) (counters : Retry.Counters) :
    Setting T config visited { world with desk, counters } es := by
  obtain ⟨hmemory, hfails, _, hbytes⟩ := prepare_spares setting.memory opened
  refine { setting with steady := setting.steady, memory := hmemory, fails := ?_, room := ?_ }
  · intro call what
    rw [hfails]
    exact setting.fails call what
  · rw [hbytes]
    exact setting.room

/-- When a run is over, it has fetched the addresses of the territory. -/
theorem Setting.fetched (setting : Setting T config visited world es) (hkeyed : Keyed es)
    (coherent : T.Coherent) (h : Moves (spider T.start config) visited world c [] j)
    (quiet : c.tasks = []) (idle : c.frontier.pending = []) :
    ∃ more, c.world.fetched = more ++ world.fetched ∧
      ∀ address, address ∈ more.map (·.text) ↔ address ∈ T.reach := by
  have answers : ∀ earlier url, ∃ answer, world.site.reply earlier url = .ok answer := by
    intro earlier url
    obtain ⟨delay, hreply⟩ := setting.steady earlier url
    exact ⟨_, hreply⟩
  obtain ⟨es', surveyed⟩ := moves_surveyed setting h
  obtain ⟨more, hmore, hfrom, _, hsettled⟩ := h.fetched answers
  refine ⟨more, hmore, fun address => ⟨?_, ?_⟩⟩
  · intro hmem
    obtain ⟨u, hu, rfl⟩ := List.mem_map.mp hmem
    obtain ⟨r, hr, rfl⟩ := hfrom u hu
    exact List.mem_dedup.mpr (List.mem_map_of_mem (surveyed.asked r hr))
  · intro hmem
    obtain ⟨q, hq, rfl⟩ := List.mem_map.mp (List.mem_dedup.mp hmem)
    obtain ⟨hemitted, inside⟩ := List.mem_filter.mp hq
    have hdispatched := setting.wanted_dispatched hkeyed coherent h quiet idle hemitted inside
    have hperm := h.settled_perm
    rw [quiet, List.map_nil, List.append_nil] at hperm
    obtain ⟨s, hs, rfl⟩ := List.mem_map.mp (hperm.mem_iff.mpr hdispatched)
    exact List.mem_map_of_mem (hsettled s hs)

/-- The outcome of a task of the territory does not stop the run. -/
theorem Setting.goes (setting : Setting T config visited world es)
    (h : Moves (spider T.start config) visited world c hand j) {t : Task GuardedStore}
    (ht : t ∈ c.tasks) {outcome : Outcome} (ended : t.phase = .ended outcome) :
    ∃ requests, followUps? outcome = some requests := by
  obtain ⟨es', surveyed⟩ := moves_surveyed setting h
  have hfinished := surveyed.tasks t ht
  rw [ended] at hfinished
  obtain ⟨requests, hfollow, _⟩ := hfinished.follows
  exact ⟨requests, hfollow⟩

theorem prepare_ok (desk : DictionaryDesk) : ∃ desk', prepare desk = (.ok (), desk') := by
  unfold prepare
  dsimp only
  split <;> exact ⟨_, rfl⟩

variable {k : Crawler GuardedStore}

/-- A dictionary crawl comes to the same whatever the concurrency and the order in which tasks go
on and leave. A run can be made to its end, all runs make a bounded number of moves, and none is
ever stuck: every task can go on or be settled. When no task is left, the addresses fetched are
those of the territory, and the store has grown by its harvest, one entry for each new name. -/
theorem dictionary_crawl_confluent (life : StoreLife k.world.desk.store.store)
    (setting : Setting T config k.visited k.world es) (coherent : T.Coherent) :
    (∃ c j, k.Running (spider T.start config) c j ∧ c.tasks = []) ∧
      (∃ bound, ∀ c j, k.Running (spider T.start config) c j → j.moves ≤ bound) ∧
      ∀ c j, k.Running (spider T.start config) c j →
        (∀ t ∈ c.tasks, t.phase.isEnded = false ∨
          ∃ c', c.settle (spider T.start config) t.ticket = some c') ∧
        (c.tasks = [] →
          (∃ more, c.world.fetched = more ++ k.world.fetched ∧
            ∀ address, address ∈ more.map (·.text) ↔ address ∈ T.reach) ∧
          ∃ new, new.Perm T.harvest ∧ c.world.desk.store.store = .memory (es ++ new) ∧
            Keyed (es ++ new)) := by
  have hkeyed : Keyed es := by
    obtain ⟨es', hstore, hkeyed⟩ := life.keyed
    rw [setting.memory] at hstore
    exact EntryStore.memory.inj hstore ▸ hkeyed
  refine ⟨?_, ⟨(T.wanted.map (charge (spider T.start config) T.steps)).sum, ?_⟩, ?_⟩
  · obtain ⟨desk, opened⟩ := prepare_ok k.world.desk
    have setting' := setting.opened opened {}
    obtain ⟨c, j, run, quiet⟩ := Run.exists_over (fun c j run => setting'.moves_le run.moves)
      fun c j run t ht outcome ended => setting'.goes run.moves ht ended
    exact ⟨c, j, ⟨desk, {}, opened, run⟩, quiet⟩
  · rintro c j ⟨desk, counters, opened, run⟩
    exact (setting.opened opened counters).moves_le run.moves
  · rintro c j ⟨desk, counters, opened, run⟩
    have setting' := setting.opened opened counters
    refine ⟨?_, ?_⟩
    · intro t ht
      cases hphase : t.phase with
      | fetching phase => exact Or.inl rfl
      | reading rest => exact Or.inl rfl
      | ended outcome =>
        obtain ⟨requests, hfollow⟩ := setting'.goes run.moves ht hphase
        exact Or.inr (run.settles ht hphase hfollow)
    · intro quiet
      have idle := run.idle quiet
      obtain ⟨new, hstore, hkeyed', hperm⟩ :=
        setting'.harvested hkeyed coherent run.moves quiet idle
      exact ⟨setting'.fetched hkeyed coherent run.moves quiet idle, new, hperm, hstore, hkeyed'⟩

/-- The territory of the sample site for a store that knows a name. -/
def sampleTerritory (list : String) : Territory where
  start := sampleHome
  parsed := .own (s := "https://site.example/") (by decide +kernel)
  page address := ((sampleAnswer list address).status, (sampleAnswer list address).body)
  accepts := Config.accepts {}
  known := ["阿"]

/-- A crawler on the sample site whose store knows the name and does not fail. -/
def sampleSurveyor (list : String) : Crawler GuardedStore where
  world :=
    { site := sampleSite list
      desk := { store := { store := .ofNames ["阿"] } } }

/-- The crawler on the sample site can crawl the territory. -/
theorem sampleSurveyor_setting (list : String)
    (room : ((sampleTerritory list).reach.map fun address =>
      Text.utf8Length ((sampleTerritory list).page address).2).sum < wordBound) :
    Setting (sampleTerritory list) {} [] (sampleSurveyor list).world [("阿", .named "阿")] where
  steady _ url := ⟨(sampleAnswer list url.text).delay, rfl⟩
  accepts := rfl
  memory := rfl
  known := rfl
  fails _ _ := rfl
  fresh := rfl
  once := rfl
  deep := by decide
  patient := by simp [Retry.Policy.Patient]
  room := by
    have hbytes : (sampleSurveyor list).world.desk.stats.bytesDownloaded = 0 := rfl
    rw [hbytes, Nat.zero_add]
    exact room

/-- A list page that names one character whose page is read and one whose page is missing. -/
def onceListed : String :=
  "<div class=box_content><div><a href=/x title=啊></a><a href=/gone title=吖>"

/-- Of the two characters listed, the one with a page is stored. -/
theorem dictionary_crawl_confluent_sample :
    (sampleTerritory onceListed).reach.length = 5 ∧
      ∃ c j, (sampleSurveyor onceListed).Running (spider sampleHome {}) c j ∧ c.tasks = [] ∧
        (∀ address, address ∈ c.world.fetched.map (·.text) ↔
          address ∈ (sampleTerritory onceListed).reach) ∧
        ∃ es new, c.world.desk.store.store = .memory (es ++ new) ∧ Keyed (es ++ new) ∧
          new.map Prod.fst = ["啊"] := by
  have computed : (sampleTerritory onceListed).Coherent ∧
      (sampleTerritory onceListed).reach.length = 5 ∧
      (sampleTerritory onceListed).harvest.map Prod.fst = ["啊"] ∧
      ((sampleTerritory onceListed).reach.map fun address =>
        Text.utf8Length ((sampleTerritory onceListed).page address).2).sum < 1000 := by
    decide +kernel
  obtain ⟨coherent, hreach, hharvest, hsize⟩ := computed
  have setting := sampleSurveyor_setting onceListed (Nat.lt_trans hsize (by decide))
  obtain ⟨⟨c, j, running, quiet⟩, _, runs⟩ :=
    dictionary_crawl_confluent (k := sampleSurveyor onceListed) (StoreLife.ofNames ["阿"]) setting
      coherent
  obtain ⟨⟨more, hmore, hfetched⟩, new, hperm, hstore, hkeyed⟩ := (runs c j running).2 quiet
  refine ⟨hreach, c, j, running, quiet, ?_, _, new, hstore, hkeyed, ?_⟩
  · rw [hmore]
    simpa [sampleSurveyor] using hfetched
  · have hnames := hperm.map Prod.fst
    rw [hharvest] at hnames
    exact List.perm_singleton.mp hnames

end SiteSpiders.Dictionary

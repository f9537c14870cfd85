import Mathlib.Algebra.GroupWithZero.Nat
import SiteSpiders.Proofs.Dictionary.Readings

/-!
# What dictionary runs keep

A memory of entries only grows over the runs of the dictionary spider. Every entry keeps
its place, every name has one entry, the growth is the number of items counted, and a
new entry is read from an accepted page of a character that a list page named.
-/
namespace SiteSpiders.Dictionary

open Crawl

/-- Whether every key of a memory is the name of its entry, each key once. -/
structure Keyed (es : List (String × Entry)) : Prop where
  key : ∀ kv ∈ es, kv.1 = kv.2.name
  nodup : (es.map Prod.fst).Nodup

namespace EntryStore

@[simp] theorem hasKey_iff (es : List (String × Entry)) (key : String) :
    hasKey es key = true ↔ key ∈ es.map Prod.fst := by
  simp [hasKey]

theorem mem_keys_put (e : Entry) (es : List (String × Entry)) (key : String) :
    key ∈ (put e es).map Prod.fst ↔ key = e.name ∨ key ∈ es.map Prod.fst := by
  induction es with
  | nil => simp [put]
  | cons kv rest ih =>
    obtain ⟨k, d⟩ := kv
    unfold put
    split_ifs with h
    · subst h
      simp
    · simp only [List.map_cons, List.mem_cons, ih]
      tauto

theorem put_keyed (e : Entry) {es : List (String × Entry)} (h : Keyed es) : Keyed (put e es) := by
  induction es with
  | nil => exact ⟨by simp [put], by simp [put]⟩
  | cons kv rest ih =>
    obtain ⟨k, d⟩ := kv
    have hnodup := List.nodup_cons.mp h.nodup
    have hrest := ih ⟨fun kv hkv => h.key kv (List.mem_cons_of_mem _ hkv), hnodup.2⟩
    unfold put
    split_ifs with hk
    · refine ⟨?_, h.nodup⟩
      intro kv hkv
      rcases List.mem_cons.mp hkv with rfl | hkv
      · exact hk
      · exact h.key kv (List.mem_cons_of_mem _ hkv)
    · refine ⟨?_, List.nodup_cons.mpr ⟨?_, hrest.nodup⟩⟩
      · intro kv hkv
        rcases List.mem_cons.mp hkv with rfl | hkv
        · exact h.key _ List.mem_cons_self
        · exact hrest.key kv hkv
      · rw [mem_keys_put, not_or]
        exact ⟨hk, hnodup.1⟩

theorem ofNames_keyed (names : List String) : ∃ es, ofNames names = .memory es ∧ Keyed es := by
  refine ⟨_, rfl, ?_⟩
  have grow : ∀ es, Keyed es → Keyed (names.foldl (fun es name => put (.named name) es) es) := by
    induction names with
    | nil => exact fun es h => h
    | cons name rest ih => exact fun es h => ih _ (put_keyed _ h)
  exact grow [] ⟨by simp, List.nodup_nil⟩

/-- An insertion appends the entry under its name, or changes nothing if the name is there. -/
theorem insert_cases (es : List (String × Entry)) (e : Entry) :
    (∃ fault, (EntryStore.memory es).insert e = (.error fault, .memory es)) ∨
      e.name ∉ es.map Prod.fst ∧
        (EntryStore.memory es).insert e = (.ok (), .memory (es ++ [(e.name, e)])) := by
  unfold insert
  dsimp only
  split_ifs with h
  · exact Or.inl ⟨_, rfl⟩
  · rw [hasKey_iff] at h
    exact Or.inr ⟨h, rfl⟩

end EntryStore

theorem Keyed.append {es : List (String × Entry)} {e : Entry} (h : Keyed es)
    (new : e.name ∉ es.map Prod.fst) : Keyed (es ++ [(e.name, e)]) := by
  refine ⟨?_, ?_⟩
  · intro kv hkv
    rcases List.mem_append.mp hkv with hkv | hkv
    · exact h.key kv hkv
    · rw [List.mem_singleton.mp hkv]
  · rw [List.map_append]
    refine List.nodup_append.mpr ⟨h.nodup, List.nodup_singleton _, ?_⟩
    rintro a ha b hb rfl
    rw [List.map_cons, List.map_nil, List.mem_singleton] at hb
    rw [hb] at ha
    exact new ha

theorem Keyed.get?_eq {es : List (String × Entry)} (h : Keyed es) {kv : String × Entry}
    (hkv : kv ∈ es) : (EntryStore.memory es).get? kv.1 = some kv.2 := by
  have nodup := h.nodup
  simp only [EntryStore.get?]
  clear h
  induction es with
  | nil => simp at hkv
  | cons head rest ih =>
    obtain ⟨hnot, hrest⟩ := List.nodup_cons.mp nodup
    rcases List.mem_cons.mp hkv with rfl | hkv
    · exact List.lookup_cons_self
    · have hne : kv.1 ≠ head.1 := fun h => hnot (h ▸ List.mem_map_of_mem hkv)
      rw [List.lookup_cons, beq_false_of_ne hne]
      exact ih hkv hrest

namespace GuardedStore

@[simp] theorem knows_store (g : GuardedStore) (name : String) :
    (g.knows name).2.store = g.store := by
  unfold knows
  split_ifs <;> rfl

/-- An insertion that fails leaves the entries, and one that succeeds appends to them. -/
theorem insert_cases {g : GuardedStore} {es : List (String × Entry)} (hstore : g.store = .memory es)
    (e : Entry) :
    (∃ fault, (g.insert e).1 = .error fault) ∧ (g.insert e).2.store = .memory es ∨
      (g.insert e).1 = .ok () ∧ e.name ∉ es.map Prod.fst ∧
        (g.insert e).2.store = .memory (es ++ [(e.name, e)]) := by
  unfold insert
  split_ifs with hrefuses
  · exact Or.inl ⟨⟨_, rfl⟩, hstore⟩
  · rw [hstore]
    rcases EntryStore.insert_cases es e with ⟨fault, heq⟩ | ⟨hnew, heq⟩
    · exact Or.inl (by simp [heq])
    · exact Or.inr (by simp [heq, hnew])

end GuardedStore

/-- The items that a task has stored and not yet counted. -/
def owed : TaskPhase GuardedStore → Nat
  | .reading (.count .item _) => 1
  | _ => 0

theorem owed_checkLinks (depth : Nat) (links : List CharacterLink) (found : List Request) :
    owed (.reading (checkLinks depth links found)) = 0 := by
  cases links <;> rfl

theorem owed_read (p : Response) : owed (.reading (read p)) = 0 := by
  unfold read
  split
  · rfl
  · rfl
  · split
    · rfl
    · exact owed_checkLinks _ _ _
  · split <;> rfl
  · rfl

theorem owed_afterFetch (start : Url) (config : Config) (result : FetchEnd) :
    owed (afterFetch (spider start config) result) = 0 := by
  cases result with
  | failed fault => rfl
  | crashed crash => rfl
  | response r =>
    simp only [afterFetch]
    split_ifs
    · exact owed_read r
    · rfl

variable {start : Url} {config : Config}

/-- What a step may do to a memory: it keeps all entries, and a new one is counted or owed and is
described by a page read before. -/
structure Grows (pages : List Response) (es new : List (String × Entry)) : Prop where
  keyed : Keyed es → Keyed (es ++ new)
  described : ∀ kv ∈ new, ∃ p ∈ pages, Describes p kv.2

lemma Grows.none (pages : List Response) (es : List (String × Entry)) : Grows pages es [] :=
  ⟨by simp, by simp⟩

/-- A step of a reading lets the memory grow by what it owes then or counts. -/
theorem readStep_grows {p : Response} {pages : List Response} {rest : Reading GuardedStore}
    {w : World GuardedStore} {es : List (String × Entry)} (hp : p ∈ pages) (h : Reads p rest)
    (hstore : w.desk.store.store = .memory es) :
    ∃ new, (readStep rest w).2.desk.store.store = .memory (es ++ new) ∧ Grows pages es new ∧
      (readStep rest w).2.desk.stats.itemsStored + owed (readStep rest w).1 =
        w.desk.stats.itemsStored + owed (.reading rest) + new.length := by
  have idle : ∀ {x : TaskPhase GuardedStore × World GuardedStore},
      x.2.desk.store.store = .memory es →
      x.2.desk.stats.itemsStored + owed x.1 = w.desk.stats.itemsStored + owed (.reading rest) →
      ∃ new, x.2.desk.store.store = .memory (es ++ new) ∧ Grows pages es new ∧
        x.2.desk.stats.itemsStored + owed x.1 =
          w.desk.stats.itemsStored + owed (.reading rest) + new.length :=
    fun hs hi => ⟨[], by simpa using hs, .none _ _, by simpa using hi⟩
  cases h with
  | finished => exact idle hstore rfl
  | kept => exact idle hstore rfl
  | @check depth passed links found listed =>
    cases links with
    | nil => exact idle hstore rfl
    | cons link rest =>
      refine idle ?_ ?_
      · exact (GuardedStore.knows_store _ _).trans hstore
      · simp only [checkLinks, Reading.ask, readStep]
        split
        · rw [owed_checkLinks]; rfl
        · rfl
        · rfl
  | @passing depth passed links found what listed other =>
    refine idle hstore ?_
    simp only [readStep, owed_checkLinks]
    cases what with
    | item => exact absurd rfl other
    | duplicate => rfl
    | storageError => rfl
  | @stored e what described =>
    refine idle hstore ?_
    cases what <;> rfl
  | @store e described =>
    rcases GuardedStore.insert_cases hstore e with ⟨⟨fault, hans⟩, hkept⟩ | ⟨hans, hnew, hkept⟩
    · refine idle hkept ?_
      simp only [storeEntry, Reading.ask, readStep, hans]
      rfl
    · refine ⟨[(e.name, e)], hkept, ⟨fun h => h.append hnew, ?_⟩, ?_⟩
      · intro kv hkv
        rw [List.mem_singleton.mp hkv]
        exact ⟨p, hp, described⟩
      · simp only [storeEntry, Reading.ask, readStep, hans]
        rfl

/-- A step of a task lets the memory grow by what it owes then or counts. -/
theorem taskStep_grows {site : Site} {pages : List Response} {request : Request}
    {phase : TaskPhase GuardedStore} {w : World GuardedStore} {es : List (String × Entry)}
    (h : PhaseSourced (spider start config) site pages request phase)
    (hstore : w.desk.store.store = .memory es) :
    ∃ new, (taskStep (spider start config) request w phase).2.2.desk.store.store =
        .memory (es ++ new) ∧ Grows pages es new ∧
      (taskStep (spider start config) request w phase).2.2.desk.stats.itemsStored +
          owed (taskStep (spider start config) request w phase).1 =
        w.desk.stats.itemsStored + owed phase + new.length := by
  cases phase with
  | ended outcome => exact ⟨[], by rw [List.append_nil]; exact hstore, .none _ _, rfl⟩
  | reading rest =>
    obtain ⟨p, hp, _, hrest⟩ := h
    exact readStep_grows hp (reads_of_rest hrest) hstore
  | fetching phase =>
    have hspares := w.fetchStep_spares (spider start config).config.retry.categories request phase
    refine ⟨[], ?_, .none _ _, ?_⟩
    · rw [taskStep_fetching_world, hspares.store, List.append_nil, hstore]
    · rw [taskStep_fetching_world, taskStep_fetching_phase, hspares.items]
      split
      · rfl
      · rw [owed_afterFetch]
        rfl

theorem countOutcome_items (outcome : Outcome) (s : Stats) :
    (countOutcome outcome s).itemsStored = s.itemsStored := by
  unfold countOutcome
  split <;> rfl

/-- Over a run a keyed memory grows by as many entries as are counted or owed by tasks in flight,
each described by a page that was read. -/
theorem moves_grow {visited : List String} {world : World GuardedStore} {c : Crawl GuardedStore}
    {hand : List Request} {j : Journal} {es : List (String × Entry)}
    (h : Moves (spider start config) visited world c hand j)
    (hstore : world.desk.store.store = .memory es) (hkeyed : Keyed es) :
    ∃ new, c.world.desk.store.store = .memory (es ++ new) ∧ Keyed (es ++ new) ∧
      c.world.desk.stats.itemsStored + (c.tasks.map fun t => owed t.phase).sum =
        world.desk.stats.itemsStored + new.length ∧
      ∀ kv ∈ new, ∃ p ∈ j.pages, Describes p kv.2 := by
  induction h with
  | begin_ => exact ⟨[], by simpa using hstore, by simpa using hkeyed, by simp, by simp⟩
  | offer _ ih => exact ih
  | start _ _ _ ih =>
    obtain ⟨new, hs, hk, hi, hd⟩ := ih
    exact ⟨new, hs, hk, by simpa [owed] using hi, hd⟩
  | @advance c j before after t moves at_ _ ih =>
    obtain ⟨new, hs, hk, hi, hd⟩ := ih
    obtain ⟨more, hs', hgrow, hi'⟩ :=
      taskStep_grows (moves.sourced.2.1 t (by simp [at_])) hs
    refine ⟨new ++ more, by rw [← List.append_assoc]; exact hs',
      by rw [← List.append_assoc]; exact hgrow.keyed hk, ?_, ?_⟩
    · simp only [at_, List.map_append, List.map_cons, List.sum_append, List.sum_cons,
        List.length_append] at hi ⊢
      omega
    · intro kv hkv
      have hmore : ∀ {p}, p ∈ j.pages → p ∈ (j.advanced (delivery? (spider start config) c.world
          t)).pages := fun hp => List.mem_append_left _ hp
      rcases List.mem_append.mp hkv with hkv | hkv
      · obtain ⟨p, hp, hdesc⟩ := hd kv hkv
        exact ⟨p, hmore hp, hdesc⟩
      · obtain ⟨p, hp, hdesc⟩ := hgrow.described kv hkv
        exact ⟨p, hmore hp, hdesc⟩
  | @settle c j before after t outcome requests _ at_ ended _ ih =>
    obtain ⟨new, hs, hk, hi, hd⟩ := ih
    refine ⟨new, hs, hk, ?_, hd⟩
    have hitems : (c.world.note (countOutcome outcome)).desk.stats.itemsStored =
        c.world.desk.stats.itemsStored := countOutcome_items _ _
    simp only [at_, ended, owed, List.map_append, List.map_cons, List.sum_append, List.sum_cons,
      hitems] at hi ⊢
    omega

/-- A request for a character is one of a link on a list page. -/
theorem character_of_leads {q : Response} {depth : Nat} {r : Request} (h : r ∈ leads q depth)
    (stage : r.stage = .character) :
    q.request.stage = .characterList ∧
      ∃ link ∈ characterLinks (Html.parse q.body) q.url, characterRequest depth link = r := by
  unfold leads at h
  split at h
  · obtain ⟨url, _, rfl⟩ := List.mem_map.mp h
    cases stage
  · obtain ⟨url, _, rfl⟩ := List.mem_map.mp h
    cases stage
  · exact ⟨‹_›, List.mem_map.mp h⟩
  · simp at h

theorem title_of_characterLink? {base : Url} {anchor : Html.Node} {link : CharacterLink}
    (h : characterLink? base anchor = some link) : anchor.attribute? "title" = some link.name := by
  simp only [characterLink?, Option.bind_eq_bind, Option.bind_eq_some_iff, Option.pure_def,
    Option.some.injEq] at h
  obtain ⟨href, _, name, hname, url, _, rfl⟩ := h
  exact hname

/-- Opening the spider leaves a memory, the way it fails, and the counts of items and bytes as they
are. -/
theorem prepare_spares {desk desk' : DictionaryDesk} {es : List (String × Entry)}
    (hstore : desk.store.store = .memory es) (h : prepare desk = (.ok (), desk')) :
    desk'.store.store = .memory es ∧ desk'.store.fails = desk.store.fails ∧
      desk'.stats.itemsStored = desk.stats.itemsStored ∧
      desk'.stats.bytesDownloaded = desk.stats.bytesDownloaded := by
  have hschema : desk.store.ensureSchema.2.store = .memory es ∧
      desk.store.ensureSchema.2.fails = desk.store.fails := by
    unfold GuardedStore.ensureSchema
    split_ifs
    · exact ⟨hstore, rfl⟩
    · rw [hstore]
      exact ⟨rfl, rfl⟩
  unfold prepare at h
  dsimp only at h
  split at h
  · cases h
    exact ⟨hschema.1, hschema.2, rfl, rfl⟩
  · cases h
    exact ⟨hschema.1, hschema.2, rfl, rfl⟩

variable {k : Crawler GuardedStore} {c : Crawl GuardedStore} {j : Journal}

/-- What a run of the dictionary spider does to a keyed memory. -/
theorem running_grows {es : List (String × Entry)}
    (running : k.Running (spider start config) c j)
    (hstore : k.world.desk.store.store = .memory es) (hkeyed : Keyed es) :
    ∃ new, c.world.desk.store.store = .memory (es ++ new) ∧ Keyed (es ++ new) ∧
      c.world.desk.stats.itemsStored + (c.tasks.map fun t => owed t.phase).sum =
        k.world.desk.stats.itemsStored + new.length ∧
      ∀ kv ∈ new, ∃ p ∈ j.pages, Describes p kv.2 := by
  obtain ⟨desk, counters, opened, run⟩ := running
  obtain ⟨hmemory, _, hitems, _⟩ := prepare_spares hstore opened
  rw [← hitems]
  exact moves_grow run.moves hmemory hkeyed

/-- The stores that come about: a memory of names, with entries inserted from outside, after runs of
dictionary spiders that were left at any point. -/
inductive StoreLife : EntryStore → Prop
  | ofNames (names : List String) : StoreLife (.ofNames names)
  | insert {s : EntryStore} (life : StoreLife s) (e : Entry) : StoreLife (s.insert e).2
  | run {k : Crawler GuardedStore} {start : Url} {config : Config} {c : Crawl GuardedStore}
      {j : Journal} (life : StoreLife k.world.desk.store.store)
      (running : k.Running (spider start config) c j) : StoreLife c.world.desk.store.store

theorem StoreLife.keyed {s : EntryStore} (life : StoreLife s) :
    ∃ es, s = .memory es ∧ Keyed es := by
  induction life with
  | ofNames names => exact EntryStore.ofNames_keyed names
  | insert _ e ih =>
    obtain ⟨es, rfl, hkeyed⟩ := ih
    rcases EntryStore.insert_cases es e with ⟨fault, heq⟩ | ⟨hnew, heq⟩
    · exact ⟨es, by rw [heq], hkeyed⟩
    · exact ⟨_, by rw [heq], hkeyed.append hnew⟩
  | run _ running ih =>
    obtain ⟨es, hstore, hkeyed⟩ := ih
    obtain ⟨new, hgrown, hkeyed', _⟩ := running_grows running hstore hkeyed
    exact ⟨_, hgrown, hkeyed'⟩

/-- Whether a page read in a run is that of a character which a list page read in the run names by
the title of an anchor. -/
def NamedOn (start : Url) (config : Config) (site : Site) (pages : List Response) (page : Response)
    (name : String) : Prop :=
  page.FetchedFor (spider start config) site ∧ page.request.stage = .character ∧
    page.request.note = some (nameNote name) ∧
    ∃ list ∈ pages, list.FetchedFor (spider start config) site ∧
      list.request.stage = .characterList ∧
      ∃ anchor ∈ (Html.parse list.body).select characterItems,
        anchor.attribute? "title" = some name ∧
        characterLink? list.url anchor = some { url := page.request.url, name }

/-- A page that describes an entry was named on a list page, and the entry is read from it under
that name. -/
theorem Describes.named {visited : List String} {world : World GuardedStore} {hand : List Request}
    (h : Moves (spider start config) visited world c hand j) {p : Response} {e : Entry}
    (hp : p ∈ j.pages) (described : Describes p e) :
    ∃ name, NamedOn start config world.site j.pages p name ∧
      e = .ofDetail name (.ofText p.body) := by
  obtain ⟨_, _, _, hpages⟩ := h.sourced
  obtain ⟨hfetched, hdispatched⟩ := hpages p hp
  have hoffered := h.dispatched_offered hdispatched
  rcases h.request_sourced (List.mem_append_left _ hoffered) with hstart | hpage
  · -- the start request is no character's
    have hreq : p.request = Request.start start := by simpa [spider] using hstart
    have hstage := described.stage
    rw [hreq] at hstage
    cases hstage
  · obtain ⟨q, hq, requests, hrest, hmem⟩ := hpage
    obtain ⟨depth, _, hsub⟩ := proceed_sublist_leads (reads_of_rest hrest) rfl
    obtain ⟨hlist, link, hlink, hreq⟩ := character_of_leads (hsub.subset hmem) described.stage
    obtain ⟨anchor, hanchor, hlink?⟩ := List.mem_filterMap.mp hlink
    have hnote : p.request.note = some (nameNote link.name) := by rw [← hreq]; rfl
    have hurl : p.request.url = link.url := by rw [← hreq]; rfl
    refine ⟨link.name, ⟨hfetched, described.stage, hnote, q, hq, (hpages q hq).1, hlist, anchor,
      hanchor, title_of_characterLink? hlink?, ?_⟩, ?_⟩
    · rw [hurl]
      exact hlink?
    · have hentry := described.entry
      simp only [entryOf, Request.readNote, hnote, readName_nameNote] at hentry
      exact (Except.ok.inj hentry).symm

/-- After any sequence of dictionary runs, whatever store calls fail and in whatever order tasks
end: a run keeps every entry there was, every key is the name of its entry and has one entry, the
entries grow by as many as the run counts as stored once it is over, and every new one is read from
an accepted page of a character under the name that a list page gave it. Inserting a name that is
there changes nothing. -/
theorem dictionary_run_keeps_entries (life : StoreLife k.world.desk.store.store)
    (running : k.Running (spider start config) c j) :
    ∃ es new, k.world.desk.store.store = .memory es ∧
      c.world.desk.store.store = .memory (es ++ new) ∧
      (∀ kv ∈ es, c.world.desk.store.store.get? kv.1 = some kv.2) ∧
      Keyed (es ++ new) ∧
      (c.tasks = [] → c.world.desk.stats.itemsStored =
        k.world.desk.stats.itemsStored + new.length) ∧
      (∀ kv ∈ new, ∃ page ∈ j.pages, ∃ name, NamedOn start config k.world.site j.pages page name ∧
        kv.2 = .ofDetail name (.ofText page.body)) ∧
      ∀ (g : GuardedStore) (e : Entry), g.store = c.world.desk.store.store →
        e.name ∈ (es ++ new).map Prod.fst →
        (∃ fault, (g.insert e).1 = .error fault) ∧ (g.insert e).2.store = g.store := by
  obtain ⟨es, hstore, hkeyed⟩ := life.keyed
  obtain ⟨new, hgrown, hkeyed', hitems, hnew⟩ := running_grows running hstore hkeyed
  refine ⟨es, new, hstore, hgrown, ?_, hkeyed', ?_, ?_, ?_⟩
  · intro kv hkv
    rw [hgrown]
    exact hkeyed'.get?_eq (List.mem_append_left _ hkv)
  · intro quiet
    simpa [quiet] using hitems
  · obtain ⟨desk, counters, _, run⟩ := running
    intro kv hkv
    obtain ⟨page, hpage, described⟩ := hnew kv hkv
    obtain ⟨name, hnamed, hentry⟩ := described.named run.moves hpage
    exact ⟨page, hpage, name, hnamed, hentry⟩
  · intro g e hg hthere
    rw [hgrown] at hg
    rcases GuardedStore.insert_cases hg e with ⟨hfault, hkept⟩ | ⟨_, hnot, _⟩
    · exact ⟨hfault, hkept.trans hg.symm⟩
    · exact absurd hthere hnot

/-- The first page of a small dictionary site. -/
def sampleHome : Url where
  scheme := "https"
  authority := some { host := some (.domain "site.example") }
  path := .rooted [""]

/-- The answers of a dictionary site of one list page. The pages of its characters are empty, and
one of them is missing. -/
def sampleAnswer (list : String) : String → Answer
  | "https://site.example/" =>
    { body := "<div id=danzi><div><div><div></div><div><div></div><div><ul><li><a href=b/>" }
  | "https://site.example/b/" => { body := "<div class=pyjs_c><div><a href=/zi_b_1/>" }
  | "https://site.example/zi_b_1/" => { body := list }
  | "https://site.example/gone" => { status := 404 }
  | _ => {}

def sampleSite (list : String) : Site where
  reply _ url := .ok { sampleAnswer list url.text with url }

/-- A crawler on the sample site whose store knows a name and fails the first call. -/
def sampleKeeper (list : String) : Crawler GuardedStore where
  world :=
    { site := sampleSite list
      desk := { store := { store := .ofNames ["阿"], fails := fun call _ => call == 0 } } }

/-- What a crawl of the sample site comes to by the clock. -/
def sampleKept (list : String) : Crawl GuardedStore :=
  (TimedCrawl.run (spider sampleHome {}) 50 (.ofCrawl (begin_ (spider sampleHome {}) []
    { (sampleKeeper list).world with desk := (prepare (sampleKeeper list).world.desk).2 }))).crawl

theorem sampleKept_running (list : String) :
    ∃ j, (sampleKeeper list).Running (spider sampleHome {}) (sampleKept list) j :=
  (Crawler.running_of_run (sampleKeeper list) (spider sampleHome {}) 50 rfl).1

/-- A list page that names one character twice, at two pages. -/
def twiceListed : String :=
  "<div class=box_content><div><a href=/x title=啊></a><a href=/y title=啊>"

/-- Both pages of the character are fetched, and the second insertion changes nothing. -/
theorem dictionary_run_keeps_entries_sample :
    (sampleKept twiceListed).tasks = [] ∧ (sampleKept twiceListed).dispatched.length = 5 ∧
      (sampleKept twiceListed).world.desk.stats.itemsStored = 1 ∧
      ∃ es new, (sampleKept twiceListed).world.desk.store.store = .memory (es ++ new) ∧
        new.length = 1 ∧ Keyed (es ++ new) := by
  have computed : (sampleKept twiceListed).tasks.isEmpty = true ∧
      (sampleKept twiceListed).dispatched.length = 5 ∧
      (sampleKept twiceListed).world.desk.stats.itemsStored = 1 := by decide +kernel
  obtain ⟨quiet, dispatched, items⟩ := computed
  obtain ⟨j, running⟩ := sampleKept_running twiceListed
  obtain ⟨es, new, _, hstore, _, hkeyed, hitems, _⟩ :=
    dictionary_run_keeps_entries (StoreLife.ofNames ["阿"]) running
  have hgrowth := hitems (List.isEmpty_iff.mp quiet)
  rw [items] at hgrowth
  refine ⟨List.isEmpty_iff.mp quiet, dispatched, items, es, new, hstore, ?_, hkeyed⟩
  exact (Nat.zero_add _).symm.trans hgrowth.symm

end SiteSpiders.Dictionary

import SiteSpiders.Proofs.Dictionary.Confluence
import SiteSpiders.Proofs.Dictionary.Protocol

/-!
# Checks before requests

A list page asks the store for each of its names before it makes a request. The check and
the insertion that answers it later are apart, so a name can be asked for twice before it
is stored: nothing then keeps its page from being fetched at two addresses. Once the name
is stored, no request for it is made any more, whatever is under way.
-/
namespace SiteSpiders.Dictionary

open Crawl Relation

def EntryStore.names : EntryStore → List String
  | .memory es => es.map Prod.fst
  | .table rows => (rows.getD []).map (·.name)

namespace EntryStore

theorem knows_eq {s : EntryStore} (made : s ≠ .table none) (name : String) :
    s.knows name = .ok (decide (name ∈ s.names)) := by
  cases s with
  | memory es =>
    have hkey : hasKey es name = decide (name ∈ es.map Prod.fst) := by
      rw [Bool.eq_iff_iff, hasKey_iff, decide_eq_true_iff]
    rw [knows, names, hkey]
  | table rows =>
    cases rows with
    | none => exact absurd rfl made
    | some rows =>
      have hname : hasName rows name = decide (name ∈ rows.map (·.name)) := by
        rw [Bool.eq_iff_iff]
        simp [hasName]
      rw [knows, names, hname, Option.getD_some]

@[simp] theorem ensureSchema_names (s : EntryStore) : s.ensureSchema.2.names = s.names := by
  cases s <;> rfl

theorem ensureSchema_cases (s : EntryStore) :
    s.ensureSchema.2 = s ∨ s = .table none ∧ s.ensureSchema.2 = .table (some []) := by
  cases s with
  | memory es => exact Or.inl rfl
  | table rows =>
    cases rows with
    | none => exact Or.inr ⟨rfl, rfl⟩
    | some rows => exact Or.inl rfl

lemma ensureSchema_made (s : EntryStore) : s.ensureSchema.2 ≠ .table none := by
  cases s <;> simp [ensureSchema]

theorem insert_keeps (s : EntryStore) (e : Entry) :
    s.names ⊆ (s.insert e).2.names ∧ (s ≠ .table none → (s.insert e).2 ≠ .table none) := by
  unfold insert
  split
  · split_ifs
    · exact ⟨List.Subset.refl _, id⟩
    · simp [names]
  · exact ⟨List.Subset.refl _, id⟩
  · split_ifs
    · exact ⟨List.Subset.refl _, id⟩
    · simp [names]

end EntryStore

namespace GuardedStore

/-- Whether the calls of a store do not fail: none by plan, and none for want of a table. -/
structure Trusty (g : GuardedStore) : Prop where
  fails : ∀ call what, g.fails call what = false
  made : g.store ≠ .table none

/-- Whether a store came from another by calls that kept what it knew. -/
structure Extends (g g' : GuardedStore) : Prop where
  names : g.store.names ⊆ g'.store.names
  trusty : g.Trusty → g'.Trusty

variable {g g' g'' : GuardedStore}

lemma Extends.refl (g : GuardedStore) : g.Extends g := ⟨List.Subset.refl _, id⟩

lemma Extends.trans (h : g.Extends g') (h' : g'.Extends g'') : g.Extends g'' :=
  ⟨List.Subset.trans h.names h'.names, h'.trusty ∘ h.trusty⟩

theorem Trusty.knows_eq (h : g.Trusty) (name : String) :
    (g.knows name).1 = .ok (decide (name ∈ g.store.names)) := by
  have hrefuses : g.refuses (.knows name) = false := h.fails _ _
  simp only [knows, hrefuses, Bool.false_eq_true, if_false]
  exact EntryStore.knows_eq h.made name

theorem knows_extends (g : GuardedStore) (name : String) : g.Extends (g.knows name).2 := by
  unfold knows
  split_ifs <;> exact ⟨List.Subset.refl _, fun h => ⟨h.fails, h.made⟩⟩

theorem insert_extends (g : GuardedStore) (e : Entry) : g.Extends (g.insert e).2 := by
  unfold insert
  split_ifs
  · exact ⟨List.Subset.refl _, fun h => ⟨h.fails, h.made⟩⟩
  · obtain ⟨hnames, hmade⟩ := g.store.insert_keeps e
    exact ⟨hnames, fun h => ⟨h.fails, hmade h.made⟩⟩

end GuardedStore

/-- Opening a store whose calls do not fail by plan makes its table and leaves all else. -/
theorem prepare_reliable {desk desk' : DictionaryDesk} (h : prepare desk = (.ok (), desk'))
    (reliable : ∀ call what, desk.store.fails call what = false) :
    desk'.stats = desk.stats ∧ desk'.store.store = desk.store.store.ensureSchema.2 ∧
      desk'.store.Trusty := by
  have hrefuses : desk.store.refuses .schema = false := reliable _ _
  have hschema : desk.store.store.ensureSchema.1 = .ok () := by
    cases desk.store.store <;> rfl
  simp only [prepare, GuardedStore.ensureSchema, hrefuses, Bool.false_eq_true, if_false,
    hschema] at h
  cases h
  exact ⟨rfl, rfl, reliable, desk.store.store.ensureSchema_made⟩

/-- The characters that a page lists, if it is read as a list. -/
def listedOn (p : Response) : List CharacterLink :=
  if p.request.stage = .characterList then characterLinks (Html.parse p.body) p.url else []

/-- Whether a request asks for the page of a character. -/
def AsksFor (name : String) (r : Request) : Prop := r.stage = .character ∧ carried r = some name

instance (name : String) : DecidablePred (AsksFor name) :=
  fun r => inferInstanceAs (Decidable (r.stage = .character ∧ carried r = some name))

theorem asksFor_characterRequest {name : String} {depth : Nat} {link : CharacterLink} :
    AsksFor name (characterRequest depth link) ↔ link.name = name := by
  simp only [AsksFor, carried_characterRequest, Option.some.injEq, and_iff_right_iff_imp]
  exact fun _ => rfl

/-- What a reading leads to if it finds the same desk at every access. -/
def foundOver (d : DictionaryDesk) : Reading GuardedStore → List Request
  | .done outcome => (followUps? outcome).getD []
  | .act _ next => foundOver d (next d)
  | .count _ rest => foundOver d rest

/-- What a task leads to if it finds the same desk from now on. -/
def foundBy (d : DictionaryDesk) : TaskPhase GuardedStore → List Request
  | .fetching _ => []
  | .reading rest => foundOver d rest
  | .ended outcome => (followUps? outcome).getD []

/-- A desk whose store answers no call. Over it a task leads to what it has found so far. -/
def deafDesk : DictionaryDesk := { store := { fails := fun _ _ => true } }

/-- A desk whose store knows no name. Over it a task leads to all that it may find. -/
def blankDesk : DictionaryDesk := { store := {} }

@[simp] theorem foundOver_deaf (depth : Nat) (links : List CharacterLink)
    (found : List Request) : foundOver deafDesk (checkLinks depth links found) = found := by
  induction links with
  | nil => rfl
  | cons link rest ih => exact ih

@[simp] theorem foundOver_blank (depth : Nat) (links : List CharacterLink)
    (found : List Request) :
    foundOver blankDesk (checkLinks depth links found) =
      found ++ links.map (characterRequest depth) := by
  induction links generalizing found with
  | nil => simp [checkLinks, foundOver, followUps?]
  | cons link rest ih =>
    have hstep := ih (found ++ [characterRequest depth link])
    rwa [List.append_assoc, List.singleton_append] at hstep

/-- A page that is not a list leads to no character. -/
theorem foundOver_read_of_ne (d : DictionaryDesk) {p : Response}
    (other : p.request.stage ≠ .characterList) {r : Request} (hr : r ∈ foundOver d (read p)) :
    r.stage ≠ .character := by
  have proceeds : ∀ requests : Nat → List Request,
      (∀ depth, ∀ r ∈ requests depth, r.stage ≠ .character) →
      r ∈ foundOver d (.done (proceedAt p requests)) → r.stage ≠ .character := by
    intro requests hother hr
    unfold proceedAt at hr
    split at hr
    · cases hr
    · exact hother _ r hr
  unfold read at hr
  split at hr
  · refine proceeds _ (fun depth r hr => ?_) hr
    obtain ⟨url, _, rfl⟩ := List.mem_map.mp hr
    simp
  · refine proceeds _ (fun depth r hr => ?_) hr
    obtain ⟨url, _, rfl⟩ := List.mem_map.mp hr
    simp
  · rename_i hlist
    exact absurd hlist other
  · split at hr
    · cases hr
    · simp only [storeEntry, Reading.ask, foundOver] at hr
      split at hr <;> cases hr
  · cases hr

theorem foundOver_read_deaf (p : Response) (name : String) :
    (foundOver deafDesk (read p)).filter (AsksFor name) = [] := by
  by_cases hlist : p.request.stage = .characterList
  · simp only [read, hlist]
    split
    · rfl
    · rw [foundOver_deaf]
      rfl
  · refine List.filter_eq_nil_iff.mpr fun r hr => ?_
    simp [AsksFor, foundOver_read_of_ne deafDesk hlist hr]

theorem countP_read_le (p : Response) (name : String) :
    (foundOver blankDesk (read p)).countP (AsksFor name) ≤
      (listedOn p).countP (·.name = name) := by
  by_cases hlist : p.request.stage = .characterList
  · simp only [read, hlist, listedOn, if_true]
    split
    · exact Nat.zero_le _
    · rw [foundOver_blank, List.nil_append, List.countP_map]
      refine le_of_eq (List.countP_congr fun link _ => ?_)
      simp [asksFor_characterRequest]
  · refine le_of_eq_of_le (List.countP_eq_zero.mpr fun r hr => ?_) (Nat.zero_le _)
    simp [AsksFor, foundOver_read_of_ne blankDesk hlist hr]

variable {start : Url} {config : Config} {visited : List String} {world : World GuardedStore}
  {c c' : Crawl GuardedStore} {j : Journal} {name : String}

theorem readStep_extends {p : Response} {rest : Reading GuardedStore} (h : Reads p rest)
    (w : World GuardedStore) : w.desk.store.Extends (readStep rest w).2.desk.store := by
  cases h with
  | finished => exact .refl _
  | @check depth passed links found =>
    cases links with
    | nil => exact .refl _
    | cons link rest => exact w.desk.store.knows_extends link.name
  | passing => exact .refl _
  | @store e => exact w.desk.store.insert_extends e
  | stored => exact .refl _
  | kept => exact .refl _

/-- A step of a reading makes no request for a name that is stored. -/
theorem readStep_found {p : Response} {rest : Reading GuardedStore} (h : Reads p rest)
    {w : World GuardedStore} (trusty : w.desk.store.Trusty)
    (known : name ∈ w.desk.store.store.names) :
    (foundBy deafDesk (readStep rest w).1).filter (AsksFor name) =
      (foundOver deafDesk rest).filter (AsksFor name) := by
  cases h with
  | finished => rfl
  | kept => rfl
  | stored => rfl
  | passing => rfl
  | store =>
    simp only [storeEntry, Reading.ask, readStep]
    split <;> rfl
  | @check depth passed links found =>
    cases links with
    | nil => rfl
    | cons link rest =>
      rw [foundOver_deaf]
      simp only [checkLinks, Reading.ask, readStep, trusty.knows_eq]
      by_cases hlink : link.name ∈ w.desk.store.store.names
      · simp only [hlink, decide_true, foundBy, foundOver, foundOver_deaf]
      · -- the link is new, so its name is another
        have hother : ¬AsksFor name (characterRequest depth link) := by
          rw [asksFor_characterRequest]
          rintro rfl
          exact hlink known
        simp [hlink, hother, foundBy]

/-- A step of a reading may find no more than before. -/
theorem readStep_blank {p : Response} {rest : Reading GuardedStore} (h : Reads p rest)
    (w : World GuardedStore) :
    (foundBy blankDesk (readStep rest w).1).Sublist (foundOver blankDesk rest) := by
  cases h with
  | finished => exact .refl _
  | kept => exact .refl _
  | stored => exact .refl _
  | passing => exact .refl _
  | store =>
    simp only [storeEntry, Reading.ask, readStep]
    split <;> exact List.nil_sublist _
  | @check depth passed links found =>
    cases links with
    | nil => exact .refl _
    | cons link rest =>
      have hskip : (found ++ rest.map (characterRequest depth)).Sublist
          (found ++ (link :: rest).map (characterRequest depth)) :=
        (List.sublist_cons_self _ _).append_left _
      rw [foundOver_blank]
      simp only [checkLinks, Reading.ask, readStep]
      split
      · simp [foundBy]
      · simpa only [foundBy, foundOver, foundOver_blank] using hskip
      · simpa only [foundBy, foundOver, foundOver_blank] using hskip

/-- A step of a task keeps what the store knew. -/
theorem taskStep_extends {site : Site} {pages : List Response} {request : Request}
    {phase : TaskPhase GuardedStore}
    (h : PhaseSourced (spider start config) site pages request phase) (w : World GuardedStore) :
    w.desk.store.Extends (taskStep (spider start config) request w phase).2.2.desk.store := by
  cases phase with
  | ended outcome => exact .refl _
  | reading rest =>
    obtain ⟨p, _, _, hrest⟩ := h
    exact readStep_extends (reads_of_rest hrest) w
  | fetching phase =>
    rw [taskStep_fetching_world, (w.fetchStep_spares _ request phase).store]
    exact .refl _

/-- A step of a task makes no request for a name that is stored. -/
theorem taskStep_found {site : Site} {pages : List Response} {t : Task GuardedStore}
    (h : PhaseSourced (spider start config) site pages t.request t.phase)
    {w : World GuardedStore} (trusty : w.desk.store.Trusty)
    (known : name ∈ w.desk.store.store.names) :
    (foundBy deafDesk (taskStep (spider start config) t.request w t.phase).1).filter
        (AsksFor name) =
      (foundBy deafDesk t.phase).filter (AsksFor name) := by
  cases hphase : t.phase with
  | ended outcome => rfl
  | reading rest =>
    rw [hphase] at h
    obtain ⟨p, _, _, hrest⟩ := h
    exact readStep_found (reads_of_rest hrest) trusty known
  | fetching phase =>
    rw [← hphase]
    rcases taskStep_delivers (spider start config) w hphase with
      ⟨p, _, hstep⟩ | ⟨_, ⟨phase', hstep⟩ | ⟨outcome, hstep, hnone⟩⟩
    · rw [hstep, hphase]
      exact foundOver_read_deaf p name
    · rw [hstep, hphase]
      rfl
    · rw [hstep, hphase]
      simp [foundBy, hnone]

/-- A step of a task may find a character as often as before and as its page lists it. -/
theorem taskStep_blank {site : Site} {pages : List Response} {t : Task GuardedStore}
    (h : PhaseSourced (spider start config) site pages t.request t.phase)
    (w : World GuardedStore) (name : String) :
    (foundBy blankDesk (taskStep (spider start config) t.request w t.phase).1).countP
        (AsksFor name) ≤
      (foundBy blankDesk t.phase).countP (AsksFor name) +
        ((delivery? (spider start config) w t).toList.map fun p =>
          (listedOn p).countP (·.name = name)).sum := by
  cases hphase : t.phase with
  | ended outcome => exact Nat.le_add_right _ _
  | reading rest =>
    rw [hphase] at h
    obtain ⟨p, _, _, hrest⟩ := h
    exact ((readStep_blank (reads_of_rest hrest) w).countP_le).trans (Nat.le_add_right _ _)
  | fetching phase =>
    rw [← hphase]
    rcases taskStep_delivers (spider start config) w hphase with
      ⟨p, hpage, hstep⟩ | ⟨_, ⟨phase', hstep⟩ | ⟨outcome, hstep, hnone⟩⟩
    · have hread := countP_read_le p name
      simp only [hstep, hpage, Option.toList_some, List.map_cons, List.map_nil, List.sum_cons,
        List.sum_nil]
      exact hread.trans (by omega)
    · simp [hstep, foundBy]
    · simp [hstep, foundBy, hnone]

/-- The requests of a crawl: those dispatched, those that wait, and those that tasks in flight lead
to if they find the same desk from now on. -/
def requestsOver (d : DictionaryDesk) (c : Crawl GuardedStore) : Multiset Request :=
  ↑c.dispatched + ↑c.frontier.pending + ↑(c.tasks.flatMap fun t => foundBy d t.phase)

/-- The requests made so far that ask for a character: dispatched, waiting, or found by a task in
flight. -/
def requestsFor (name : String) (c : Crawl GuardedStore) : Multiset Request :=
  (requestsOver deafDesk c).filter (AsksFor name)

theorem requestsOver_startUpTo (d : DictionaryDesk) (n : Nat) (c : Crawl GuardedStore) :
    requestsOver d (startUpTo n c) = requestsOver d c := by
  obtain ⟨started, hasking, hpending, htasks, hdispatched, _⟩ := startUpTo_started n c
  have hnone : (started.flatMap fun t => foundBy d t.phase) = [] :=
    List.flatMap_eq_nil_iff.mpr fun t ht => by rw [hasking t ht]; rfl
  simp only [requestsOver, hpending, htasks, hdispatched, List.flatMap_append, hnone,
    List.append_nil, ← Multiset.coe_add, Multiset.coe_reverse]
  ac_rfl

theorem requestsOver_offer_le (d : DictionaryDesk) (c : Crawl GuardedStore)
    (spider : Spider GuardedStore) (requests : List Request) :
    requestsOver d (c.offer spider requests) ≤ requestsOver d c + ↑requests := by
  obtain ⟨entered, hsub, _, hpending⟩ :=
    c.frontier.offerAll_pending spider.config spider.domains requests
  have hle : (↑entered : Multiset Request) ≤ ↑requests := Multiset.coe_le.mpr hsub.subperm
  calc requestsOver d (c.offer spider requests)
      = requestsOver d c + ↑entered := by
        simp only [requestsOver, Crawl.offer, hpending, ← Multiset.coe_add]
        ac_rfl
    _ ≤ requestsOver d c + ↑requests := by gcongr

/-- Settling a task makes no request. -/
theorem requestsOver_settle_le (run : Run (spider start config) visited world c j)
    {t : Task GuardedStore} {outcome : Outcome} (at_ : c.task? t.ticket = some t)
    (ended : t.phase = .ended outcome) (goes : c.settle (spider start config) t.ticket = some c')
    (d : DictionaryDesk) : requestsOver d c' ≤ requestsOver d c := by
  obtain ⟨before, after, heq, _, hremove⟩ := split_at_ticket run.moves.ticketed.1 at_
  rw [settle_eq at_ ended] at goes
  obtain ⟨requests, hfollow, rfl⟩ := Option.map_eq_some_iff.mp goes
  have hfound : foundBy d t.phase = requests := by rw [ended, foundBy, hfollow, Option.getD_some]
  rw [fill, requestsOver_startUpTo]
  refine (requestsOver_offer_le _ _ _ _).trans (le_of_eq ?_)
  simp only [requestsOver, hremove, heq, List.flatMap_append, List.flatMap_cons, hfound,
    ← Multiset.coe_add]
  simp only [remove]
  ac_rfl

theorem requestsOver_begin (d : DictionaryDesk) {r : Request}
    (hr : r ∈ requestsOver d (begin_ (spider start config) visited world)) :
    ¬AsksFor name r := by
  rw [begin_, fill, requestsOver_startUpTo] at hr
  have hstart := Multiset.mem_of_le (requestsOver_offer_le _ _ _ _) hr
  have hr : r = Request.start start := by simpa [requestsOver, spider] using hstart
  rw [hr]
  simp [AsksFor, Request.start]

/-- A move keeps what the store knew, and makes no request for a name that is stored. -/
theorem next_requests (run : Run (spider start config) visited world c j)
    (next : Next (spider start config) c c') :
    c.world.desk.store.Extends c'.world.desk.store ∧
      (c.world.desk.store.Trusty → ∀ name ∈ c.world.desk.store.store.names,
        requestsFor name c' ≤ requestsFor name c) := by
  cases next with
  | @advance t at_ busy =>
    obtain ⟨before, after, heq, hadvance⟩ := run.advance_split at_
    have hsource := run.moves.sourced.2.1 t (by simp [heq])
    rw [hadvance]
    refine ⟨taskStep_extends hsource c.world, fun trusty name known => ?_⟩
    -- nothing changes but the phase of `t`, which has found as much for the name as before
    have hfound := taskStep_found hsource trusty known
    refine le_of_eq ?_
    simp only [requestsFor, requestsOver, heq, List.flatMap_append, List.flatMap_cons,
      Multiset.filter_add, Multiset.filter_coe, List.filter_append, hfound]
  | @settle _ t outcome at_ ended goes =>
    obtain ⟨s⟩ := run.settlement at_ ended goes
    have hstore : c'.world.desk.store = c.world.desk.store := by rw [s.world]; rfl
    rw [hstore]
    exact ⟨.refl _, fun _ _ _ =>
      Multiset.filter_le_filter _ (requestsOver_settle_le run at_ ended goes deafDesk)⟩

/-- Moves keep what the store knew, and make no request for a name that is stored. -/
theorem later_requests (run : Run (spider start config) visited world c j)
    (trusty : c.world.desk.store.Trusty)
    (moves : ReflTransGen (Next (spider start config)) c c') :
    c.world.desk.store.Extends c'.world.desk.store ∧
      ∀ name ∈ c.world.desk.store.store.names, requestsFor name c' ≤ requestsFor name c := by
  induction moves with
  | refl => exact ⟨.refl _, fun _ _ => le_refl _⟩
  | @tail b c' moves next ih =>
    obtain ⟨hextends, hless⟩ := ih
    obtain ⟨j', run'⟩ := run.later moves
    obtain ⟨hnext, hnone⟩ := next_requests run' next
    refine ⟨hextends.trans hnext, fun name known => ?_⟩
    exact (hnone (hextends.trusty trusty) name (hextends.names known)).trans (hless name known)

/-- A run on a store that can be trusted makes no request for a name that was stored at first. -/
theorem run_requests (run : Run (spider start config) visited world c j)
    (trusty : world.desk.store.Trusty) :
    world.desk.store.Extends c.world.desk.store ∧
      ∀ name ∈ world.desk.store.store.names, requestsFor name c = 0 := by
  have hbegin := (begin_started (spider start config) visited world).1
  have hlater := later_requests Run.start (by rw [hbegin]; exact trusty) run.reachable
  rw [hbegin] at hlater
  refine ⟨hlater.1, fun name known => ?_⟩
  have hbare : requestsFor name (begin_ (spider start config) visited world) = 0 :=
    Multiset.filter_eq_nil.mpr fun r hr => requestsOver_begin deafDesk hr
  exact Multiset.le_zero.mp (hbare ▸ hlater.2 name known)

/-- A run may ask for a character at most as often as the pages it has read list it. -/
theorem run_requests_le (run : Run (spider start config) visited world c j) (name : String) :
    (requestsOver blankDesk c).countP (AsksFor name) ≤
      (j.pages.map fun p => (listedOn p).countP (·.name = name)).sum := by
  induction run with
  | start =>
    refine le_of_eq_of_le (Multiset.countP_eq_zero.mpr fun r hr => ?_) (Nat.zero_le _)
    exact requestsOver_begin blankDesk hr
  | @advance c j t run at_ busy ih =>
    -- what the task may find for the name grows by what its page lists, if it gets one now
    obtain ⟨before, after, heq, hadvance⟩ := run.advance_split at_
    have hstep := taskStep_blank (run.moves.sourced.2.1 t (by simp [heq])) c.world name
    rw [hadvance]
    simp only [requestsOver, heq, List.flatMap_append, List.flatMap_cons, Multiset.countP_add,
      Multiset.coe_countP, List.countP_append, Journal.advanced, List.map_append,
      List.sum_append] at ih ⊢
    omega
  | settle run at_ ended goes ih =>
    exact (Multiset.countP_le_of_le _ (requestsOver_settle_le run at_ ended goes _)).trans ih

/-- The requests for the page of a character that were dispatched. -/
def fetchesFor (name : String) (c : Crawl GuardedStore) : List Request :=
  c.dispatched.filter (AsksFor name)

theorem fetchesFor_le (name : String) (c : Crawl GuardedStore) :
    ↑(fetchesFor name c) ≤ requestsFor name c := by
  rw [fetchesFor, ← Multiset.filter_coe, requestsFor, requestsOver, add_assoc]
  exact Multiset.filter_le_filter _ (Multiset.le_add_right _ _)

theorem length_fetchesFor_le (name : String) (c : Crawl GuardedStore) :
    (fetchesFor name c).length ≤ (requestsOver blankDesk c).countP (AsksFor name) := by
  rw [fetchesFor, ← List.countP_eq_length_filter, requestsOver, add_assoc, Multiset.countP_add,
    Multiset.coe_countP]
  exact Nat.le_add_right _ _

variable {k : Crawler GuardedStore}

theorem carried_of_readNote {r : Request} (h : r.readNote readName = .ok (some name)) :
    carried r = some name := by
  unfold Request.readNote at h
  unfold carried
  cases hnote : r.note with
  | none => simp [hnote] at h
  | some note =>
    cases hread : readName note with
    | error fault => simp [hnote, hread] at h
    | ok name' => simpa [hnote, hread, Except.toOption] using h

/-- What is dispatched for a character was linked under its name by a list page that was read. -/
theorem link_of_fetch (run : Run (spider start config) visited world c j) {r : Request}
    (hr : r ∈ fetchesFor name c) :
    ∃ p ∈ j.pages, { url := r.url, name } ∈ listedOn p := by
  obtain ⟨hdispatched, hasks⟩ := List.mem_filter.mp hr
  obtain ⟨hstage, hcarried⟩ : AsksFor name r := of_decide_eq_true hasks
  cases dispatched_staged run.moves hdispatched with
  | bootstrap stage => rw [stage] at hstage; cases hstage
  | pinyinIndex stage => rw [stage] at hstage; cases hstage
  | characterList stage => rw [stage] at hstage; cases hstage
  | @character p anchor name' stage depth recovered led before listed titled linked =>
    have hname : name' = name :=
      Option.some.inj ((carried_of_readNote recovered).symm.trans hcarried)
    rw [hname] at linked
    refine ⟨p, led.read, ?_⟩
    rw [listedOn, if_pos before]
    exact List.mem_filterMap.mpr ⟨anchor, listed, linked⟩

/-- Over a store whose calls do not fail, whatever the site and the order in which tasks end: once a
name is stored, what is ever dispatched for it was made before. No name is dispatched more often
than the list pages link it. Unless addresses are revisited, what is dispatched for a name goes to
different addresses, so that one which the list pages link at one address is dispatched at most
once. -/
theorem name_unrequested_once_stored (running : k.Running (spider start config) c j)
    (reliable : ∀ call what, k.world.desk.store.fails call what = false) :
    (∀ name ∈ c.world.desk.store.store.names, ∀ c',
      ReflTransGen (Next (spider start config)) c c' →
        ↑(fetchesFor name c') ≤ requestsFor name c) ∧
      (∀ name, (fetchesFor name c).length ≤
        (j.pages.map fun p => (listedOn p).countP (·.name = name)).sum) ∧
      (config.revisit = false → ∀ name,
        ((fetchesFor name c).map (·.url.text)).Nodup ∧
          ∀ address, (∀ p ∈ j.pages, ∀ link ∈ listedOn p, link.name = name →
            link.url.text = address) → (fetchesFor name c).length ≤ 1) := by
  obtain ⟨desk, counters, opened, run⟩ := running
  obtain ⟨_, _, htrusty⟩ := prepare_reliable opened reliable
  refine ⟨fun name known c' moves => ?_,
    fun name => (length_fetchesFor_le name c).trans (run_requests_le run name),
    fun once name => ?_⟩
  · have hlater := later_requests run ((run_requests run htrusty).1.trusty htrusty) moves
    exact (fetchesFor_le name c').trans (hlater.2 name known)
  · have hdispatched := run.moves.dispatched_nodup once
    have hnodup : ((fetchesFor name c).map (·.url.text)).Nodup :=
      hdispatched.sublist (List.filter_sublist.map _)
    refine ⟨hnodup, fun address single => ?_⟩
    have hsame : ∀ u ∈ (fetchesFor name c).map (·.url.text), u = address := by
      intro u hu
      obtain ⟨r, hr, rfl⟩ := List.mem_map.mp hu
      obtain ⟨p, hp, hlink⟩ := link_of_fetch run hr
      exact single p hp { url := r.url, name } hlink rfl
    have hsub : ((fetchesFor name c).map (·.url.text)).Subperm [address] :=
      hnodup.subperm fun u hu => List.mem_singleton.mpr (hsame u hu)
    simpa using hsub.length_le

/-- A list page that links one character at two pages and another at one. -/
def variouslyListed : String :=
  "<div class=box_content><div><a href=/x title=啊></a><a href=/y title=啊></a><a href=/z title=吖>"

/-- The desk of the crawl of that page. -/
def checkedDesk : DictionaryDesk := (prepare (sampleSurveyor variouslyListed).world.desk).2

/-- A point of the crawl at which the pages of both characters are in flight and the first is
stored. -/
def sampleChecked : TimedCrawl GuardedStore :=
  TimedCrawl.run (spider sampleHome {}) 22
    ((sampleSurveyor variouslyListed).timed (spider sampleHome {}) checkedDesk)

def checkedJournal : Journal :=
  (sampleSurveyor variouslyListed).journal (spider sampleHome {}) checkedDesk 22

theorem sampleChecked_running :
    (sampleSurveyor variouslyListed).Running (spider sampleHome {}) sampleChecked.crawl
      checkedJournal := by
  have opened : (spider sampleHome {}).onOpen (sampleSurveyor variouslyListed).world.desk =
      (.ok (), checkedDesk) := rfl
  exact Crawler.running_timed _ _ 22 opened

theorem sampleChecked_fetches :
    "啊" ∈ sampleChecked.crawl.world.desk.store.store.names ∧
      (fetchesFor "啊" sampleChecked.crawl).length = 2 ∧
      (requestsFor "啊" sampleChecked.crawl).card = 2 ∧
      (fetchesFor "吖" sampleChecked.crawl).length = 1 ∧
      ∀ p ∈ checkedJournal.pages, ∀ link ∈ listedOn p, link.name = "吖" →
        link.url.text = "https://site.example/z" := by
  decide +kernel

/-- The check does not keep a name from being fetched twice. -/
theorem name_fetched_twice :
    ¬∀ (k : Crawler GuardedStore) (start : Url) (config : Config) (c : Crawl GuardedStore)
      (j : Journal) (name : String), k.Running (spider start config) c j →
        (∀ call what, k.world.desk.store.fails call what = false) →
        (fetchesFor name c).length ≤ 1 := by
  intro once
  have hle := once _ _ _ _ _ "啊" sampleChecked_running fun _ _ => rfl
  rw [sampleChecked_fetches.2.1] at hle
  exact absurd hle (by decide)

/-- The character at two pages is fetched twice and no more, the other one once. -/
theorem name_unrequested_once_stored_sample :
    "啊" ∈ sampleChecked.crawl.world.desk.store.store.names ∧
      (∀ c, ReflTransGen (Next (spider sampleHome {})) sampleChecked.crawl c →
        (fetchesFor "啊" c).length ≤ 2) ∧
      ((fetchesFor "啊" sampleChecked.crawl).map (·.url.text)).Nodup ∧
      (fetchesFor "吖" sampleChecked.crawl).length ≤ 1 := by
  obtain ⟨known, _, hmade, _, single⟩ := sampleChecked_fetches
  obtain ⟨hstored, _, hdistinct⟩ :=
    name_unrequested_once_stored sampleChecked_running fun _ _ => rfl
  refine ⟨known, fun c moves => ?_, (hdistinct rfl "啊").1, (hdistinct rfl "吖").2 _ single⟩
  have hcard := Multiset.card_le_card (hstored "啊" known c moves)
  rwa [hmade, Multiset.coe_card] at hcard

end SiteSpiders.Dictionary

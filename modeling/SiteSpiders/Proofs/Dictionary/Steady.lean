import SiteSpiders.Proofs.Crawl.Ending
import SiteSpiders.Proofs.Dictionary.Keeping
import SiteSpiders.Proofs.Dictionary.Territory

/-!
# A dictionary crawl on a steady site

On a site where every address always answers the same, with a store whose calls do not
fail, every task knows what it is about: it follows the leads of its own page, but for
names that have been stored by then, and it does not leave before its character is
stored. No task breaks off while the byte count can hold the pages.
-/
namespace SiteSpiders

/-- Whether a site always answers an address itself and in the same way, if not after the same
time. -/
def Site.Steady (site : Site) (page : String → Nat × String) : Prop :=
  ∀ earlier url, ∃ delay, site.reply earlier url =
    .ok { status := (page url.text).1, body := (page url.text).2, delay, url }

/-- What is fetched from a steady site is its page. -/
theorem Response.FetchedFor.steady {σ : Type} {p : Response} {spider : Spider σ} {site : Site}
    {page : String → Nat × String} (h : p.FetchedFor spider site) (steady : site.Steady page) :
    p.url = p.request.url ∧ p.status = (page p.request.url.text).1 ∧
      p.body = (page p.request.url.text).2 := by
  obtain ⟨_, earlier, answer, hreply, hurl, hstatus, hbody⟩ := h
  obtain ⟨delay, hsteady⟩ := steady earlier p.request.url
  rw [hsteady] at hreply
  obtain rfl := Except.ok.inj hreply
  exact ⟨hurl.symm, hstatus.symm, hbody.symm⟩

/-- Whether the delays of a policy can all be waited for. -/
def Retry.Policy.Patient (policy : Retry.Policy) : Prop :=
  ∀ c ∈ policy.categories, ∀ attempt < c.2.maxRetries, ∃ time, c.2.delay attempt = .ok time

/-- A fetch does not break off if delays can be waited for and the byte count can hold the page. -/
theorem World.judge_ne_crashed {σ : Type} {policy : Retry.Policy} (patient : policy.Patient)
    (w : World σ) (request : Request) (answer : Arrival)
    (room : w.desk.stats.bytesDownloaded + Text.utf8Length answer.body < wordBound)
    (crash : Crash) :
    (w.judge policy.categories request answer).1 ≠ .over (.crashed crash) := by
  intro h
  unfold World.judge at h
  dsimp only at h
  split at h
  · rename_i hsome
    obtain ⟨_, config, hmem, attempt, hlt, hdelay⟩ := Retry.consider_some hsome
    obtain ⟨time, hok⟩ := patient _ hmem attempt hlt
    rw [hdelay] at hok
    cases hok
  · cases h
  · split at h
    · rename_i heq
      have hcount := congrArg Prod.fst heq
      simp [World.countResponse, Stats.Tally.recordRequest, Stats.Tally.countResponse, addWord,
        room] at hcount
    · cases h

end SiteSpiders

namespace SiteSpiders.Dictionary

open Crawl

/-- How far the links of the list page of a request were checked: each link passed is stored by now
or among the requests found. -/
structure Checked (T : Territory) (names : List String) (q : Request)
    (passed links : List CharacterLink) (found : List Request) : Prop where
  stage : q.stage = .characterList
  all : characterLinks (Html.parse (T.body q)) q.url = passed ++ links
  led : ∀ r ∈ found, r ∈ T.leads q
  seen : ∀ link ∈ passed, link.name ∈ names ∨ characterRequest (q.depth + 1) link ∈ found

/-- Where the reading of a page of the territory can stand, by the names stored so far. -/
inductive ReadingAt (T : Territory) (names : List String) (q : Request) :
    Reading GuardedStore → Prop
  | follow (stage : q.stage ≠ .character) : ReadingAt T names q (.done (.proceed (T.leads q)))
  | check {passed links : List CharacterLink} {found : List Request}
      (checked : Checked T names q passed links found) :
      ReadingAt T names q (checkLinks (q.depth + 1) links found)
  | passing {passed links : List CharacterLink} {found : List Request} {what : Count}
      (checked : Checked T names q passed links found) :
      ReadingAt T names q (.count what (checkLinks (q.depth + 1) links found))
  | store {name : String} (stage : q.stage = .character) (carries : carried q = some name) :
      ReadingAt T names q (storeEntry (.ofDetail name (.ofText (T.body q))))
  | stored {name : String} {what : Count} (stage : q.stage = .character)
      (carries : carried q = some name) (there : name ∈ names) :
      ReadingAt T names q (.count what (.done .skip))
  | kept {name : String} (stage : q.stage = .character) (carries : carried q = some name)
      (there : name ∈ names) : ReadingAt T names q (.done .skip)

/-- What a task that has ended leaves: if its page is read, all leads of the page, but for names
stored by now, and the entry of its character. -/
structure Finished (T : Territory) (names : List String) (q : Request) (outcome : Outcome) :
    Prop where
  follows : ∃ requests, followUps? outcome = some requests ∧
    (∀ r ∈ requests, T.opens q = true ∧ r ∈ T.leads q) ∧
    (T.opens q = true → ∀ r ∈ T.leads q, r ∈ requests ∨ ∃ name ∈ names, carried r = some name)
  keeps : T.opens q = true → q.stage = .character → ∀ name, carried q = some name → name ∈ names

/-- Where a task for a request of the territory can stand, by the names stored so far. -/
def Standing (T : Territory) (names : List String) (q : Request) : TaskPhase GuardedStore → Prop
  | .fetching .asking => True
  | .fetching (.arriving answer) =>
    answer.url = q.url ∧ answer.status = (T.page q.url.text).1 ∧ answer.body = T.body q
  | .reading rest => T.opens q = true ∧ ReadingAt T names q rest
  | .ended outcome => Finished T names q outcome

variable {T : Territory} {names : List String} {q : Request}

theorem Finished.mono {more : List String} (sub : names ⊆ more) {outcome : Outcome}
    (h : Finished T names q outcome) : Finished T more q outcome := by
  obtain ⟨requests, hfollow, hleads, hall⟩ := h.follows
  refine ⟨⟨requests, hfollow, hleads, fun opens r hr => ?_⟩, ?_⟩
  · refine (hall opens r hr).imp_right ?_
    rintro ⟨name, hname, hcarried⟩
    exact ⟨name, sub hname, hcarried⟩
  · exact fun opens stage name hname => sub (h.keeps opens stage name hname)

theorem Checked.mono {more : List String} (sub : names ⊆ more) {passed links : List CharacterLink}
    {found : List Request} (h : Checked T names q passed links found) :
    Checked T more q passed links found :=
  ⟨h.stage, h.all, h.led, fun link hlink => (h.seen link hlink).imp_left (@sub _)⟩

theorem Standing.mono {more : List String} (sub : names ⊆ more) {phase : TaskPhase GuardedStore}
    (h : Standing T names q phase) : Standing T more q phase := by
  cases phase with
  | fetching phase => cases phase <;> exact h
  | ended outcome => exact Finished.mono sub h
  | reading rest =>
    obtain ⟨opens, hrest⟩ := h
    refine ⟨opens, ?_⟩
    cases hrest with
    | follow stage => exact .follow stage
    | check checked => exact .check (checked.mono sub)
    | passing checked => exact .passing (checked.mono sub)
    | store stage carries => exact .store stage carries
    | stored stage carries there => exact .stored stage carries (sub there)
    | kept stage carries there => exact .kept stage carries (sub there)

theorem Checked.skip {passed rest : List CharacterLink} {link : CharacterLink}
    {found : List Request}
    (h : Checked T names q passed (link :: rest) found) (there : link.name ∈ names) :
    Checked T names q (passed ++ [link]) rest found := by
  refine ⟨h.stage, by rw [h.all]; simp, h.led, ?_⟩
  intro l hl
  rcases List.mem_append.mp hl with hl | hl
  · exact h.seen l hl
  · rw [List.mem_singleton.mp hl]
    exact Or.inl there

/-- A link is passed with a request, if its name is not known at first. -/
theorem Checked.request {passed rest : List CharacterLink} {link : CharacterLink}
    {found : List Request} (h : Checked T names q passed (link :: rest) found)
    (new : link.name ∉ T.known) :
    Checked T names q (passed ++ [link]) rest (found ++ [characterRequest (q.depth + 1) link]) := by
  have hlead : characterRequest (q.depth + 1) link ∈ T.leads q := by
    simp only [Territory.leads, h.stage]
    refine List.mem_map_of_mem (List.mem_filter.mpr ⟨?_, by simpa using new⟩)
    rw [h.all]
    simp
  refine ⟨h.stage, by rw [h.all]; simp, ?_, ?_⟩
  · intro r hr
    rcases List.mem_append.mp hr with hr | hr
    · exact h.led r hr
    · rw [List.mem_singleton.mp hr]
      exact hlead
  · intro l hl
    rcases List.mem_append.mp hl with hl | hl
    · exact (h.seen l hl).imp_right (List.mem_append_left _)
    · rw [List.mem_singleton.mp hl]
      exact Or.inr (List.mem_append_right _ List.mem_cons_self)

theorem Checked.finished {passed : List CharacterLink} {found : List Request}
    (h : Checked T names q passed [] found) (opens : T.opens q = true) :
    Finished T names q (.proceed found) := by
  refine ⟨⟨found, rfl, fun r hr => ⟨opens, h.led r hr⟩, fun _ r hr => ?_⟩, ?_⟩
  · simp only [Territory.leads, h.stage] at hr
    obtain ⟨link, hlink, rfl⟩ := List.mem_map.mp hr
    have hpassed : link ∈ passed := by
      have hmem := (List.mem_filter.mp hlink).1
      rwa [h.all, List.append_nil] at hmem
    refine (h.seen link hpassed).symm.imp_right fun there => ?_
    exact ⟨link.name, there, carried_characterRequest _ _⟩
  · intro _ stage
    rw [h.stage] at stage
    cases stage

/-- A store in memory that knows the names known at first and whose calls do not fail. -/
structure Ready (T : Territory) (g : GuardedStore) (es : List (String × Entry)) : Prop where
  memory : g.store = .memory es
  fails : ∀ call what, g.fails call what = false
  known : T.known ⊆ es.map Prod.fst

variable {g : GuardedStore} {es : List (String × Entry)}

theorem Ready.knows (h : Ready T g es) (name : String) :
    (g.knows name).1 = .ok (EntryStore.hasKey es name) ∧ Ready T (g.knows name).2 es := by
  have hrefuses : g.refuses (.knows name) = false := h.fails _ _
  simp only [GuardedStore.knows, hrefuses, Bool.false_eq_true, if_false, h.memory,
    EntryStore.knows, true_and]
  exact ⟨h.memory, h.fails, h.known⟩

/-- After an insertion the name is stored, whether it was before or not. -/
theorem Ready.insert (h : Ready T g es) (e : Entry) :
    ∃ es', Ready T (g.insert e).2 es' ∧ es.map Prod.fst ⊆ es'.map Prod.fst ∧
      e.name ∈ es'.map Prod.fst := by
  have hrefuses : g.refuses (.insert e.name) = false := h.fails _ _
  have hinsert : g.insert e =
      ((g.store.insert e).1, { g.counted with store := (g.store.insert e).2 }) := by
    simp only [GuardedStore.insert, hrefuses, Bool.false_eq_true, if_false]
  rw [hinsert, h.memory]
  by_cases hthere : e.name ∈ es.map Prod.fst
  · have hkey : EntryStore.hasKey es e.name = true := (EntryStore.hasKey_iff es e.name).mpr hthere
    refine ⟨es, ⟨?_, h.fails, h.known⟩, fun _ => id, hthere⟩
    simp only [EntryStore.insert, hkey, if_true]
  · have hkey : EntryStore.hasKey es e.name = false := by
      rw [← Bool.not_eq_true, EntryStore.hasKey_iff]
      exact hthere
    have hgrow : es.map Prod.fst ⊆ (es ++ [(e.name, e)]).map Prod.fst := by
      rw [List.map_append]
      exact List.subset_append_left _ _
    refine ⟨es ++ [(e.name, e)], ⟨?_, h.fails, fun _ hname => hgrow (h.known hname)⟩, hgrow, ?_⟩
    · simp only [EntryStore.insert, hkey, Bool.false_eq_true, if_false]
    · simp

/-- A step of a reading keeps what the task knows. -/
theorem readStep_stands {rest : Reading GuardedStore} {w : World GuardedStore}
    (opens : T.opens q = true) (h : ReadingAt T (es.map Prod.fst) q rest)
    (ready : Ready T w.desk.store es) :
    ∃ es', Ready T (readStep rest w).2.desk.store es' ∧ es.map Prod.fst ⊆ es'.map Prod.fst ∧
      Standing T (es'.map Prod.fst) q (readStep rest w).1 := by
  cases h with
  | follow stage =>
    refine ⟨es, ready, fun _ => id, ⟨T.leads q, rfl, fun r hr => ⟨opens, hr⟩, ?_⟩, ?_⟩
    · exact fun _ r hr => Or.inl hr
    · exact fun _ stage' => absurd stage' stage
  | kept stage carries there =>
    refine ⟨es, ready, fun _ => id, ⟨[], rfl, by simp, ?_⟩, ?_⟩
    · intro _ r hr
      simp [Territory.leads, stage, Dictionary.leads, Territory.response] at hr
    · intro _ _ name hname
      rw [carries] at hname
      exact Option.some.inj hname ▸ there
  | passing checked => exact ⟨es, ready, fun _ => id, opens, .check checked⟩
  | stored stage carries there => exact ⟨es, ready, fun _ => id, opens, .kept stage carries there⟩
  | @store name stage carries =>
    obtain ⟨es', hready, hsub, hname⟩ := ready.insert (.ofDetail name (.ofText (T.body q)))
    refine ⟨es', hready, hsub, opens, ?_⟩
    simp only
    split
    · exact .stored stage carries hname
    · exact .stored stage carries hname
  | @check passed links found checked =>
    cases links with
    | nil => exact ⟨es, ready, fun _ => id, checked.finished opens⟩
    | cons link rest =>
      obtain ⟨hanswer, hready⟩ := ready.knows link.name
      refine ⟨es, hready, fun _ => id, opens, ?_⟩
      simp only [hanswer]
      cases hkey : EntryStore.hasKey es link.name with
      | true => exact .passing (checked.skip ((EntryStore.hasKey_iff es _).mp hkey))
      | false =>
        rw [← Bool.not_eq_true, EntryStore.hasKey_iff] at hkey
        exact .check (checked.request fun hknown => hkey (ready.known hknown))

theorem nextDepth_eq (hq : T.Proper q) {p : Response} (hreq : p.request = q) :
    p.nextDepth = .ok (q.depth + 1) := by
  have hdepth : q.depth ≤ 3 := by cases hq <;> simp [characterRequest]
  have hword : 4 < wordBound := by decide
  rw [Response.nextDepth, hreq, addWord, if_pos (by omega)]

/-- The page of a request of the territory is read from the right point. -/
theorem readingAt_read (hq : T.Proper q) {p : Response} (hreq : p.request = q)
    (hurl : p.url = q.url)
    (hbody : p.body = T.body q) (names : List String) : ReadingAt T names q (read p) := by
  have hdeep := nextDepth_eq hq hreq
  have hfollow : p.follow = (T.response q).follow := by
    funext link
    rw [Response.follow, hurl]
    rfl
  have hstage : p.request.stage = q.stage := by rw [hreq]
  cases hq with
  | bootstrap url =>
    simp only at hstage hdeep
    have hread : read p = .done (.proceed (T.leads { url })) := by
      simp only [read, hstage, proceedAt, hdeep, Territory.leads, Dictionary.leads,
        pinyinRequests, hfollow, hbody, Territory.response]
    rw [hread]
    exact .follow (by simp)
  | pinyinIndex url =>
    simp only at hstage hdeep
    have hread : read p =
        .done (.proceed (T.leads { url, stage := .pinyinIndex, depth := 1 })) := by
      simp only [read, hstage, proceedAt, hdeep, Territory.leads, Dictionary.leads,
        groupRequests, hfollow, hbody, Territory.response]
    rw [hread]
    exact .follow (by simp)
  | characterList url =>
    simp only at hstage hdeep
    simp only [read, hstage, hdeep, hbody, hurl]
    exact .check ⟨rfl, (List.nil_append _).symm, by simp, by simp⟩
  | character link new =>
    have hnote : p.request.note = some (nameNote link.name) := by rw [hreq]; rfl
    have hentry : entryOf p =
        .ok (.ofDetail link.name (.ofText (T.body (characterRequest 3 link)))) := by
      simp only [entryOf, Request.readNote, hnote, readName_nameNote, hbody]
    have hread : read p =
        storeEntry (.ofDetail link.name (.ofText (T.body (characterRequest 3 link)))) := by
      simp only [read, hstage, characterRequest, hentry]
    rw [hread]
    exact .store rfl (carried_characterRequest _ _)

variable {config : Config}

/-- A step of a task for a request of the territory keeps what the task knows. -/
theorem taskStep_stands {phase : TaskPhase GuardedStore} {w : World GuardedStore}
    (hq : T.Proper q) (accepts : T.accepts = config.accepts) (patient : config.retry.Patient)
    (steady : w.site.Steady T.page)
    (room : ∀ answer, phase = .fetching (.arriving answer) →
      w.desk.stats.bytesDownloaded + Text.utf8Length (T.body q) < wordBound)
    (ready : Ready T w.desk.store es) (h : Standing T (es.map Prod.fst) q phase) :
    ∃ es', Ready T (taskStep (spider T.start config) q w phase).2.2.desk.store es' ∧
      es.map Prod.fst ⊆ es'.map Prod.fst ∧
      Standing T (es'.map Prod.fst) q (taskStep (spider T.start config) q w phase).1 := by
  cases phase with
  | ended outcome => exact ⟨es, ready, fun _ => id, h⟩
  | reading rest => exact readStep_stands h.1 h.2 ready
  | fetching phase =>
    have hspares := w.fetchStep_spares config.retry.categories q phase
    refine ⟨es, ?_, fun _ => id, ?_⟩
    · rw [taskStep_fetching_world]
      exact hspares.store ▸ ready
    · cases phase with
      | asking =>
        obtain ⟨delay, hreply⟩ := steady w.asked q.url
        simp only [taskStep, World.fetchStep_asking, hreply]
        exact ⟨rfl, rfl, rfl⟩
      | arriving answer =>
        obtain ⟨hplace, hstatus, hbody⟩ := h
        have hroom := room answer rfl
        rw [← hbody] at hroom
        have hcrash := w.judge_ne_crashed patient q answer hroom
        simp only [taskStep_fetching_phase, World.fetchStep]
        rcases w.judge_cases config.retry.categories q answer with
          ⟨crash, heq⟩ | ⟨time, heq⟩ | ⟨r, heq, hurl, hs, hb, hreq⟩
        · exact absurd heq (hcrash crash)
        · have heq' : (w.judge (spider T.start config).config.retry.categories q answer).1 =
              .pause .asking time := heq
          rw [heq']
          trivial
        · have heq' : (w.judge (spider T.start config).config.retry.categories q answer).1 =
              .over (.response r) := heq
          rw [heq']
          have hopens : (spider T.start config).config.accepts r.status = T.opens q := by
            rw [hs, hstatus, Territory.opens, accepts]
            rfl
          simp only [afterFetch, hopens]
          cases opens : T.opens q with
          | true =>
            exact ⟨opens, readingAt_read hq hreq (hurl.trans hplace) (hb.trans hbody) _⟩
          | false =>
            refine ⟨⟨[], rfl, by simp, ?_⟩, ?_⟩
            · intro h
              rw [opens] at h
              cases h
            · intro h
              rw [opens] at h
              cases h

/-- The bytes that a task may still add to the byte count. -/
def loading (T : Territory) (request : Request) : TaskPhase GuardedStore → Nat
  | .fetching _ => Text.utf8Length (T.body request)
  | _ => 0

theorem countResponse_bytes (w : World GuardedStore) (answer : Arrival) :
    (w.countResponse answer).2.desk.stats.bytesDownloaded ≤
      w.desk.stats.bytesDownloaded + Text.utf8Length answer.body := by
  simp only [World.countResponse, World.note, Desk.note, Stats.Tally.recordRequest]
  split
  · exact Nat.le_add_right _ _
  · rename_i hsum
    unfold addWord at hsum
    split_ifs at hsum
    exact Nat.le_of_eq (Except.ok.inj hsum).symm

/-- Judging an answer adds its bytes at most, and none if it is asked for anew. -/
theorem judge_bytes (walk : List (Retry.Category × Retry.CategoryConfig)) (w : World GuardedStore)
    (request : Request) (answer : Arrival) :
    (w.judge walk request answer).2.desk.stats.bytesDownloaded ≤
        w.desk.stats.bytesDownloaded + Text.utf8Length answer.body ∧
      ∀ phase time, (w.judge walk request answer).1 = .pause phase time →
        (w.judge walk request answer).2.desk.stats.bytesDownloaded =
          w.desk.stats.bytesDownloaded := by
  unfold World.judge
  dsimp only
  split
  · exact ⟨Nat.le_add_right _ _, fun _ _ h => by cases h⟩
  · exact ⟨Nat.le_add_right _ _, fun _ _ _ => rfl⟩
  · have h := countResponse_bytes
      { w with counters := (w.counters.consider walk request.url answer.status answer.body).2 }
      answer
    split
    · rename_i heq
      rw [heq] at h
      exact ⟨h, fun _ _ h => by cases h⟩
    · rename_i heq
      rw [heq] at h
      exact ⟨h, fun _ _ h => by cases h⟩

theorem readStep_bytes {p : Response} {rest : Reading GuardedStore} (h : Reads p rest)
    (w : World GuardedStore) :
    (readStep rest w).2.desk.stats.bytesDownloaded = w.desk.stats.bytesDownloaded := by
  have hcount : ∀ what : Count, (what.add w.desk.stats).bytesDownloaded =
      w.desk.stats.bytesDownloaded := by
    intro what
    cases what <;> rfl
  cases h with
  | finished => rfl
  | check _ => rename_i links _ _; cases links <;> rfl
  | passing => exact hcount _
  | store => rfl
  | stored => exact hcount _
  | kept => rfl

/-- A step of a task adds no more to the byte count than it may. -/
theorem taskStep_bytes {start : Url} {site : Site} {pages : List Response}
    {phase : TaskPhase GuardedStore} {w : World GuardedStore} (steady : site.Steady T.page)
    (h : PhaseSourced (spider start config) site pages q phase) :
    (taskStep (spider start config) q w phase).2.2.desk.stats.bytesDownloaded +
        loading T q (taskStep (spider start config) q w phase).1 ≤
      w.desk.stats.bytesDownloaded + loading T q phase := by
  cases phase with
  | ended outcome => exact Nat.le_refl _
  | reading rest =>
    obtain ⟨p, _, _, hrest⟩ := h
    have hbytes := readStep_bytes (reads_of_rest hrest) w
    have hnone : loading T q (readStep rest w).1 = 0 := by cases rest <;> rfl
    simp only [taskStep, hbytes, hnone]
    exact Nat.le_refl _
  | fetching phase =>
    rw [taskStep_fetching_world, taskStep_fetching_phase]
    cases phase with
    | asking =>
      rw [World.fetchStep_asking]
      cases w.site.reply w.asked q.url with
      | error fault => exact Nat.le_add_right _ _
      | ok answer => exact Nat.le_refl _
    | arriving answer =>
      obtain ⟨earlier, hreply⟩ := h
      obtain ⟨delay, hsteady⟩ := steady earlier q.url
      rw [hsteady] at hreply
      obtain rfl := Except.ok.inj hreply
      obtain ⟨hle, hpause⟩ := judge_bytes (spider start config).config.retry.categories w q
        { status := (T.page q.url.text).1, body := (T.page q.url.text).2, delay, url := q.url }
      simp only [World.fetchStep]
      split
      · rename_i hstep
        simp only [hpause _ _ hstep, loading]
        exact Nat.le_refl _
      · rename_i result _
        have hnone : loading T q (afterFetch (spider start config) result) = 0 := by
          cases result with
          | failed fault => rfl
          | crashed crash => rfl
          | response r =>
            simp only [afterFetch]
            split_ifs <;> rfl
        simp only [hnone, Nat.add_zero]
        exact hle

variable {visited : List String} {world : World GuardedStore} {c : Crawl GuardedStore}
  {hand : List Request} {j : Journal}

/-- The byte count of a run, with what its tasks may still add, is within the sizes of the pages
dispatched. -/
theorem moves_bytes_le {start : Url} (steady : world.site.Steady T.page)
    (h : Moves (spider start config) visited world c hand j) :
    c.world.desk.stats.bytesDownloaded + (c.tasks.map fun t => loading T t.request t.phase).sum ≤
      world.desk.stats.bytesDownloaded +
        (c.dispatched.map fun r => Text.utf8Length (T.body r)).sum := by
  induction h with
  | begin_ => simp
  | offer _ ih => exact ih
  | @start c r rest j _ _ _ ih =>
    have hnew : loading T r (.fetching .asking) = Text.utf8Length (T.body r) := rfl
    simp only [start_tasks, start_dispatched, List.map_append, List.map_cons, List.map_nil,
      List.sum_append, List.sum_cons, List.sum_nil, start_world, hnew]
    omega
  | @advance c j before after t moves at_ _ ih =>
    have hstep := taskStep_bytes (w := c.world) (q := t.request) steady
      (moves.sourced.2.1 t (by simp [at_]))
    simp only [at_, List.map_append, List.map_cons, List.sum_append, List.sum_cons] at ih ⊢
    omega
  | @settle c j before after t outcome requests _ at_ ended _ ih =>
    have hbytes : (c.world.note (countOutcome outcome)).desk.stats.bytesDownloaded =
        c.world.desk.stats.bytesDownloaded := by
      simp only [World.note, Desk.note, countOutcome]
      split <;> rfl
    simp only [at_, hbytes, List.map_append, List.map_cons, List.sum_append, List.sum_cons] at ih ⊢
    omega

end SiteSpiders.Dictionary

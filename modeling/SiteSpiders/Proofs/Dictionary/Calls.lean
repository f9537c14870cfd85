import Mathlib.Algebra.BigOperators.Group.List.Basic
import Mathlib.Tactic.Abel
import SiteSpiders.Proofs.Dictionary.Checks

/-!
# The calls of a store

A dictionary crawl calls its store when it is opened, for each link of a list page and for
each page of a character. A run keeps a log of these calls with their answers: a step of a
task makes a call exactly if it stands at a link to be checked or at an entry to be
inserted. The log holds what the store was asked, no more and no less, and accounts of a
run are kept against it.
-/
namespace SiteSpiders.Dictionary

open Crawl Storage

/-- A call of the store with its answer. -/
inductive Called where
  | schema (answer : Except StorageFault Unit)
  | check (link : CharacterLink) (answer : Except StorageFault Bool)
  | insert (e : Entry) (answer : Except StorageFault Unit)

namespace Called

def what : Called → StoreCall
  | .schema _ => .schema
  | .check link _ => .knows link.name
  | .insert e _ => .insert e.name

def fails : Called → Bool
  | .schema (.error _) | .check _ (.error _) | .insert _ (.error _) => true
  | _ => false

/-- Whether it was an insertion that failed. -/
def failsToInsert : Called → Bool
  | .insert _ (.error _) => true
  | _ => false

/-- The link that was checked, if its name was answered to be absent. -/
def absent? : Called → Option CharacterLink
  | .check link (.ok false) => some link
  | _ => none

end Called

/-- The calls that the coming step of a task makes, with the answers of the store. A link that is
checked is one of a list page of the task, and an entry that is inserted is described by its
page. -/
inductive Calling (pages : List Response) (g : GuardedStore) (t : Task GuardedStore) :
    List Called → Prop
  | none (still : ∀ effect next, t.phase ≠ .reading (.act effect next)) : Calling pages g t []
  | check {p : Response} {depth : Nat} {passed rest : List CharacterLink} {link : CharacterLink}
      {found : List Request} (page : p ∈ pages) (own : p.request = t.request)
      (listed : Listed p depth passed (link :: rest) found)
      (at_ : t.phase = .reading (checkLinks depth (link :: rest) found)) :
      Calling pages g t [.check link (g.knows link.name).1]
  | insert {p : Response} {e : Entry} (page : p ∈ pages) (own : p.request = t.request)
      (described : Describes p e) (at_ : t.phase = .reading (storeEntry e)) :
      Calling pages g t [.insert e (g.insert e).1]

variable {start : Url} {config : Config} {visited : List String} {world : World GuardedStore}
  {c : Crawl GuardedStore} {j : Journal} {log : List Called}

/-- A step of a task makes at most one call, by where it stands. -/
theorem exists_calling {site : Site} {pages : List Response} (g : GuardedStore)
    {t : Task GuardedStore}
    (sourced : PhaseSourced (spider start config) site pages t.request t.phase) :
    ∃ calls, Calling pages g t calls := by
  cases hphase : t.phase with
  | fetching phase => exact ⟨[], .none (by simp [hphase])⟩
  | ended outcome => exact ⟨[], .none (by simp [hphase])⟩
  | reading rest =>
    rw [hphase] at sourced
    obtain ⟨p, page, own, hrest⟩ := sourced
    cases reads_of_rest hrest with
    | finished => exact ⟨[], .none (by simp [hphase])⟩
    | passing => exact ⟨[], .none (by simp [hphase])⟩
    | stored => exact ⟨[], .none (by simp [hphase])⟩
    | kept => exact ⟨[], .none (by simp [hphase])⟩
    | store described => exact ⟨_, .insert page own described hphase⟩
    | @check depth passed links found listed =>
      cases links with
      | nil => exact ⟨[], .none (by simp [hphase, checkLinks])⟩
      | cons link links => exact ⟨_, .check page own listed hphase⟩

/-- Runs with the log of their calls, in order of time. -/
inductive Logged (start : Url) (config : Config) (visited : List String)
    (world : World GuardedStore) : Crawl GuardedStore → Journal → List Called → Prop
  | start : Logged start config visited world (begin_ (spider start config) visited world)
      (Journal.offered {} (({ visited } : Frontier).offersOf (spider start config).config
        (spider start config).domains (spider start config).startRequests)) []
  | advance {c : Crawl GuardedStore} {j : Journal} {log calls : List Called}
      {t : Task GuardedStore} (run : Logged start config visited world c j log)
      (at_ : c.task? t.ticket = some t) (busy : t.phase.isEnded = false)
      (calling : Calling j.pages c.world.desk.store t calls) :
      Logged start config visited world (c.advance (spider start config) t.ticket).2
        (j.advanced (delivery? (spider start config) c.world t)) (log ++ calls)
  | settle {c c' : Crawl GuardedStore} {j : Journal} {log : List Called}
      {t : Task GuardedStore} {outcome : Outcome}
      (run : Logged start config visited world c j log) (at_ : c.task? t.ticket = some t)
      (ended : t.phase = .ended outcome)
      (goes : c.settle (spider start config) t.ticket = some c') :
      Logged start config visited world c' ((j.left t.request outcome).offered
        (c.frontier.offersOf (spider start config).config (spider start config).domains
          ((followUps? outcome).getD []))) log

theorem Logged.run (h : Logged start config visited world c j log) :
    Run (spider start config) visited world c j := by
  induction h with
  | start => exact .start
  | advance _ at_ busy _ ih => exact ih.advance at_ busy
  | settle _ at_ ended goes ih => exact ih.settle at_ ended goes

theorem exists_logged (run : Run (spider start config) visited world c j) :
    ∃ log, Logged start config visited world c j log := by
  induction run with
  | start => exact ⟨[], .start⟩
  | advance run at_ busy ih =>
    obtain ⟨log, h⟩ := ih
    obtain ⟨calls, calling⟩ := exists_calling _
      (run.moves.sourced.2.1 _ (List.mem_of_find?_eq_some at_))
    exact ⟨log ++ calls, h.advance at_ busy calling⟩
  | settle _ at_ ended goes ih =>
    obtain ⟨log, h⟩ := ih
    exact ⟨log, h.settle at_ ended goes⟩

namespace GuardedStore

theorem knows_counts (g : GuardedStore) (name : String) :
    (g.knows name).2.calls = g.calls + 1 ∧ (g.knows name).2.fails = g.fails := by
  unfold knows
  split_ifs <;> exact ⟨rfl, rfl⟩

theorem insert_counts (g : GuardedStore) (e : Entry) :
    (g.insert e).2.calls = g.calls + 1 ∧ (g.insert e).2.fails = g.fails := by
  unfold insert
  split_ifs <;> exact ⟨rfl, rfl⟩

end GuardedStore

/-- A step counts the calls it makes, and leaves the plan by which calls fail. -/
theorem taskStep_calls (start : Url) (config : Config) {pages : List Response}
    {t : Task GuardedStore} {w : World GuardedStore} {calls : List Called}
    (calling : Calling pages w.desk.store t calls) :
    (taskStep (spider start config) t.request w t.phase).2.2.desk.store.calls =
        w.desk.store.calls + calls.length ∧
      (taskStep (spider start config) t.request w t.phase).2.2.desk.store.fails =
        w.desk.store.fails := by
  cases calling with
  | check _ _ _ at_ =>
    rw [at_]
    exact w.desk.store.knows_counts _
  | insert _ _ _ at_ =>
    rw [at_]
    exact w.desk.store.insert_counts _
  | none still =>
    cases hphase : t.phase with
    | ended outcome => exact ⟨rfl, rfl⟩
    | fetching phase =>
      rw [taskStep_fetching_world, (w.fetchStep_spares _ t.request phase).store]
      exact ⟨rfl, rfl⟩
    | reading rest =>
      cases rest with
      | done outcome => exact ⟨rfl, rfl⟩
      | count what rest => exact ⟨rfl, rfl⟩
      | act effect next => exact absurd hphase (still effect next)

theorem Calling.refused {pages : List Response} {g : GuardedStore} {t : Task GuardedStore}
    {calls : List Called} (calling : Calling pages g t calls) :
    ∀ call ∈ calls, g.refuses call.what = true → call.fails = true := by
  intro call hcall refuses
  cases calling with
  | none => cases hcall
  | check =>
    obtain rfl := List.mem_singleton.mp hcall
    simp only [Called.what] at refuses
    simp [GuardedStore.knows, refuses, Called.fails]
  | insert =>
    obtain rfl := List.mem_singleton.mp hcall
    simp only [Called.what] at refuses
    simp [GuardedStore.insert, refuses, Called.fails]

theorem Calling.length_le {pages : List Response} {g : GuardedStore} {t : Task GuardedStore}
    {calls : List Called} (calling : Calling pages g t calls) : calls.length ≤ 1 := by
  cases calling <;> simp

/-- The log holds as many calls as the store counted, and those fail that its plan names by their
numbers. -/
theorem Logged.calls (h : Logged start config visited world c j log) :
    c.world.desk.store.calls = world.desk.store.calls + log.length ∧
      c.world.desk.store.fails = world.desk.store.fails ∧
      ∀ i call, log[i]? = some call →
        world.desk.store.fails (world.desk.store.calls + i) call.what = true →
        call.fails = true := by
  induction h with
  | start =>
    rw [(begin_started (spider start config) visited world).1]
    exact ⟨rfl, rfl, by simp⟩
  | @advance c j log calls t h at_ busy calling ih =>
    obtain ⟨hcalls, hfails, hrefused⟩ := ih
    obtain ⟨before, after, heq, hadvance⟩ := h.run.advance_split at_
    obtain ⟨hstep, hplan⟩ := taskStep_calls start config calling
    rw [hadvance]
    refine ⟨?_, hplan.trans hfails, fun i call hi refuses => ?_⟩
    · simp only [hstep, hcalls, List.length_append, Nat.add_assoc]
    · rcases Nat.lt_or_ge i log.length with hlt | hge
      · rw [List.getElem?_append_left hlt] at hi
        exact hrefused i call hi refuses
      · -- the new call is the next by number
        rw [List.getElem?_append_right hge] at hi
        obtain ⟨hi', _⟩ := List.getElem?_eq_some_iff.mp hi
        have hle := calling.length_le
        have hlast : i = log.length := by omega
        refine calling.refused call (List.mem_of_getElem? hi) ?_
        rw [GuardedStore.refuses, hcalls, hfails, ← hlast]
        exact refuses
  | settle h at_ ended goes ih =>
    obtain ⟨s⟩ := h.run.settlement at_ ended goes
    rw [s.world]
    exact ih

/-! ## Accounts against the log -/

/-- What a step of a task does, by where the task stands: how it changes the statistics, where it
leaves the task, which calls it makes and which page it hands over. Fetches leave the counts that
readings keep. -/
inductive Stepped (t : Task GuardedStore) (s : Stats) :
    Stats → TaskPhase GuardedStore → List Called → Option Response → Prop
  | fetching {s' : Stats} {phase phase' : FetchPhase} (at_ : t.phase = .fetching phase)
      (same : s'.kept = s.kept) : Stepped t s s' (.fetching phase') [] none
  | dropped {s' : Stats} {phase : FetchPhase} {outcome : Outcome}
      (at_ : t.phase = .fetching phase) (nowhere : followUps? outcome = some [])
      (same : s'.kept = s.kept) : Stepped t s s' (.ended outcome) [] none
  | fetched {s' : Stats} {phase : FetchPhase} {p : Response} (at_ : t.phase = .fetching phase)
      (own : p.request = t.request)
      (described : p.request.stage = .character → ∃ e, entryOf p = .ok e)
      (same : s'.kept = s.kept) : Stepped t s s' (.reading (read p)) [] (some p)
  | done {outcome : Outcome} (at_ : t.phase = .reading (.done outcome)) :
      Stepped t s s (.ended outcome) [] none
  | passed {depth : Nat} {links : List CharacterLink} {found : List Request} {what : Count}
      (at_ : t.phase = .reading (.count what (checkLinks depth links found)))
      (stage : t.request.stage = .characterList) (other : what ≠ .item) :
      Stepped t s (what.add s) (.reading (checkLinks depth links found)) [] none
  | stored {what : Count} (at_ : t.phase = .reading (.count what (.done .skip))) :
      Stepped t s (what.add s) (.reading (.done .skip)) [] none
  | check {links : List CharacterLink} {link : CharacterLink} {found : List Request}
      (at_ : t.phase = .reading (checkLinks 3 (link :: links) found))
      (stage : t.request.stage = .characterList) (answer : Except StorageFault Bool) :
      Stepped t s s (.reading (match answer with
        | .ok false => checkLinks 3 links (found ++ [characterRequest 3 link])
        | .ok true => .count .duplicate (checkLinks 3 links found)
        | .error _ => .count .storageError (checkLinks 3 links found)))
        [.check link answer] none
  | insert {e : Entry} (at_ : t.phase = .reading (storeEntry e))
      (stage : t.request.stage = .character) (answer : Except StorageFault Unit) :
      Stepped t s s (.reading (match answer with
        | .ok () => .count .item (.done .skip)
        | .error _ => .count .storageError (.done .skip))) [.insert e answer] none

theorem Staged.describes {led : Response → Request → Prop} {p : Response}
    (h : Staged start led p.request) (stage : p.request.stage = .character) :
    ∃ e, entryOf p = .ok e := by
  cases h with
  | bootstrap stage' => rw [stage'] at stage; cases stage
  | pinyinIndex stage' => rw [stage'] at stage; cases stage
  | characterList stage' => rw [stage'] at stage; cases stage
  | character _ _ recovered => exact ⟨_, by simp only [entryOf, recovered]; rfl⟩

theorem Staged.listed_depth {led : Response → Request → Prop} {p : Response} {depth : Nat}
    {passed links : List CharacterLink} {found : List Request} (h : Staged start led p.request)
    (listed : Listed p depth passed links found) : depth = 3 := by
  have hdeep := h.nextDepth_eq.symm.trans listed.deep
  have hlist := listed.stage
  cases h with
  | bootstrap stage => rw [stage] at hlist; cases hlist
  | pinyinIndex stage => rw [stage] at hlist; cases hlist
  | character stage => rw [stage] at hlist; cases hlist
  | characterList _ two =>
    rw [two] at hdeep
    exact (Except.ok.inj hdeep).symm

/-- Every step of a task is one of these. -/
theorem taskStep_stepped (run : Run (spider start config) visited world c j)
    {t : Task GuardedStore} {calls : List Called} (ht : t ∈ c.tasks)
    (busy : t.phase.isEnded = false) (calling : Calling j.pages c.world.desk.store t calls) :
    Stepped t c.world.desk.stats
      (taskStep (spider start config) t.request c.world t.phase).2.2.desk.stats
      (taskStep (spider start config) t.request c.world t.phase).1 calls
      (delivery? (spider start config) c.world t) := by
  have sourced := run.moves.sourced.2.1 t ht
  cases calling with
  | @check p depth passed links link found page own listed at_ =>
    have hnone : delivery? (spider start config) c.world t = none := by simp only [delivery?, at_]
    obtain rfl := (page_staged run.moves page).listed_depth listed
    rw [hnone, at_]
    exact .check at_ (own ▸ listed.stage) _
  | insert page own described at_ =>
    have hnone : delivery? (spider start config) c.world t = none := by simp only [delivery?, at_]
    rw [hnone, at_]
    exact .insert at_ (own ▸ described.stage) _
  | none still =>
    cases hphase : t.phase with
    | ended outcome => rw [hphase] at busy; cases busy
    | fetching phase =>
      have same := c.world.fetchStep_kept (spider start config).config.retry.categories t.request
        phase
      rw [← taskStep_fetching_world] at same
      rw [← hphase] at same ⊢
      rcases taskStep_delivers (spider start config) c.world hphase with
        ⟨p, hpage, hstep⟩ | ⟨hnone, ⟨phase', hstep⟩ | ⟨outcome, hstep, nowhere⟩⟩
      · have own := ((taskStep_sourced run.moves.sourced.1 sourced).2 p hpage).2
        have staged := dispatched_staged run.moves (run.moves.dispatched_of_task ht)
        rw [hstep, hpage]
        exact .fetched hphase own (own ▸ staged).describes same
      · rw [hstep, hnone]
        exact .fetching hphase same
      · rw [hstep, hnone]
        exact .dropped hphase nowhere same
    | reading rest =>
      have hnone : delivery? (spider start config) c.world t = none := by
        simp only [delivery?, hphase]
      rw [hphase] at sourced
      obtain ⟨p, _, own, hrest⟩ := sourced
      rw [hnone]
      cases reads_of_rest hrest with
      | finished => exact .done hphase
      | kept => exact .done hphase
      | passing listed other => exact .passed hphase (own ▸ listed.stage) other
      | stored => exact .stored hphase
      | store => exact absurd hphase (still _ _)
      | @check depth passed links found listed =>
        cases links with
        | nil => exact .done hphase
        | cons link links => exact absurd hphase (still _ _)

/-- An account of a run in some amounts: what the statistics show of it, what tasks in flight hold,
what tasks take along when they are settled, what calls take out and put in, and what pages put
in. -/
structure Account (M : Type) where
  shown : Stats → M
  held : Request → TaskPhase GuardedStore → M
  taken : Outcome → M
  spent : Called → M
  due : Called → M
  paid : Response → M

/-- Whether an account is kept by every step, and by every settlement of some outcomes. -/
structure Account.Kept {M : Type} [AddCommMonoid M] (a : Account M) (settles : Outcome → Prop) :
    Prop where
  new : ∀ request, a.held request (.fetching .asking) = 0
  step : ∀ {t s s' phase calls page}, Stepped t s s' phase calls page →
    a.shown s' + (calls.map a.spent).sum + a.held t.request phase =
      a.shown s + a.held t.request t.phase + (calls.map a.due).sum + (page.toList.map a.paid).sum
  leave : ∀ {outcome} request s, settles outcome →
    a.shown (countOutcome outcome s) + a.taken outcome = a.shown s + a.held request (.ended outcome)

/-- An account that is kept is balanced. -/
theorem Account.Kept.balance {M : Type} [AddCommMonoid M] {a : Account M}
    {settles : Outcome → Prop} (kept : a.Kept settles)
    (h : Logged start config visited world c j log) (settled : ∀ s ∈ j.settled, settles s.2) :
    a.shown c.world.desk.stats + (j.settled.map fun s => a.taken s.2).sum +
        (log.map a.spent).sum + (c.tasks.map fun t => a.held t.request t.phase).sum =
      a.shown world.desk.stats + (log.map a.due).sum + (j.pages.map a.paid).sum := by
  have fresh : ∀ started : List (Task GuardedStore),
      (∀ t ∈ started, t.phase = .fetching .asking) →
      (started.map fun t => a.held t.request t.phase).sum = 0 := by
    intro started asking
    refine List.sum_eq_zero fun m hm => ?_
    obtain ⟨t, ht, rfl⟩ := List.mem_map.mp hm
    rw [asking t ht]
    exact kept.new t.request
  induction h with
  | start =>
    obtain ⟨hworld, hasking⟩ := begin_started (spider start config) visited world
    simp [hworld, fresh _ hasking, Journal.offered]
  | @advance c j log calls t h at_ busy calling ih =>
    obtain ⟨before, after, heq, hadvance⟩ := h.run.advance_split at_
    have hstep := kept.step (taskStep_stepped h.run (by simp [heq]) busy calling)
    have ih := ih settled
    rw [hadvance]
    simp only [heq, Journal.advanced, List.map_append, List.map_cons, List.sum_append,
      List.sum_cons] at ih ⊢
    calc _ = (a.shown (taskStep (spider start config) t.request c.world t.phase).2.2.desk.stats +
            (calls.map a.spent).sum + a.held t.request
              (taskStep (spider start config) t.request c.world t.phase).1) +
            ((j.settled.map fun s => a.taken s.2).sum + (log.map a.spent).sum +
              (before.map fun t => a.held t.request t.phase).sum +
              (after.map fun t => a.held t.request t.phase).sum) := by abel
      _ = a.shown c.world.desk.stats + (j.settled.map fun s => a.taken s.2).sum +
            (log.map a.spent).sum + ((before.map fun t => a.held t.request t.phase).sum +
              (a.held t.request t.phase + (after.map fun t => a.held t.request t.phase).sum)) +
            (calls.map a.due).sum +
            ((delivery? (spider start config) c.world t).toList.map a.paid).sum := by
        rw [hstep]
        abel
      _ = _ := by
        rw [ih]
        abel
  | @settle c c' j log t outcome h at_ ended goes ih =>
    obtain ⟨s⟩ := h.run.settlement at_ ended goes
    have hleave := kept.leave t.request c.world.desk.stats (settled (t.request, outcome) (by simp))
    have ih := ih fun s hs => settled s (List.mem_append_left _ hs)
    rw [s.tasks, s.world]
    simp only [s.at_, Journal.offered, Journal.left, List.map_append, List.map_cons, List.map_nil,
      List.sum_append, List.sum_cons, List.sum_nil, fresh _ s.asking, add_zero, ended] at ih ⊢
    calc _ = (a.shown (countOutcome outcome c.world.desk.stats) + a.taken outcome) +
            ((j.settled.map fun s => a.taken s.2).sum + (log.map a.spent).sum +
              (s.before.map fun t => a.held t.request t.phase).sum +
              (s.after.map fun t => a.held t.request t.phase).sum) := by
            simp only [World.note, Desk.note]
            abel
      _ = a.shown c.world.desk.stats + (j.settled.map fun s => a.taken s.2).sum +
            (log.map a.spent).sum + ((s.before.map fun t => a.held t.request t.phase).sum +
              (a.held t.request (.ended outcome) +
                (s.after.map fun t => a.held t.request t.phase).sum)) := by
        rw [hleave]
        abel
      _ = _ := ih

end SiteSpiders.Dictionary

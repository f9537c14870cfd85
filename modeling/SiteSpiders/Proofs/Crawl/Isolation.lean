import SiteSpiders.Proofs.Crawl.Returns

/-!
# Failures stay with their tasks

The engine hears of a task only when it is settled, and of a failure it keeps no more
than a count. So its queue, its dispatches and the tasks in flight are the same whether
the failure of a task is heard or passed over. This is proved twice. Runs of any two
spiders look alike as long as their tasks leave with the same outcomes but for failures.
And a spider that does not look at the counts of errors cannot tell whether failures are
passed over: the two runs go in step and differ by the counts alone.
-/
namespace SiteSpiders

variable {σ τ : Type}

namespace Outcome

/-- An outcome with its failure passed over. -/
def excused : Outcome → Outcome
  | .failed _ | .crashed _ => .skip
  | outcome => outcome

/-- Whether a page could not be read, or its request did not carry what it needs. -/
def isParseError : Outcome → Bool
  | .failed (.parsing _) | .failed (.missingContext _) => true
  | _ => false

def isStorageError : Outcome → Bool
  | .failed (.storage _) => true
  | _ => false

@[simp] theorem isParseError_excused (o : Outcome) : o.excused.isParseError = false := by
  cases o <;> rfl

@[simp] theorem isStorageError_excused (o : Outcome) : o.excused.isStorageError = false := by
  cases o <;> rfl

end Outcome

/-- Raises the counts of parse errors and of storage errors. -/
def Stats.raise (parse storage : Nat) (s : Stats) : Stats :=
  { s with parseErrors := s.parseErrors + parse, storageErrors := s.storageErrors + storage }

namespace Crawl

lemma followUps?_excused (o : Outcome) : followUps? o.excused = followUps? o := by
  cases o <;> rfl

/-- All that the engine counts of an outcome is an error of parsing or of a store. -/
theorem countOutcome_eq (o : Outcome) :
    countOutcome o = Stats.raise o.isParseError.toNat o.isStorageError.toNat := by
  cases o with
  | failed fault => cases fault <;> rfl
  | _ => rfl

/-- What the engine holds of a crawl: the addresses seen and the queue, the requests dispatched, and
the tasks in flight by ticket and request. -/
structure View where
  frontier : Frontier
  dispatched : List Request
  inFlight : List (Nat × Request)

def view (c : Crawl σ) : View where
  frontier := c.frontier
  dispatched := c.dispatched
  inFlight := c.tasks.map fun t => (t.ticket, t.request)

/-- A settlement: the ticket of the task, how the task ended, what the engine was told of it, and
the crawl before and after. -/
structure Settled (σ : Type) where
  ticket : Nat
  outcome : Outcome
  told : Outcome
  before : Crawl σ
  after : Crawl σ

/-- What the engine is told of an outcome, if the failures of some tasks are passed over. -/
def tell (spare : Nat → Bool) (ticket : Nat) (outcome : Outcome) : Outcome :=
  if spare ticket then outcome.excused else outcome

/-- Runs in which the failures of some tasks are passed over, with their settlements in order of
time. -/
inductive Chronicle (spare : Nat → Bool) (spider : Spider σ) (visited : List String)
    (world : World σ) : Crawl σ → List (Settled σ) → Prop
  | start : Chronicle spare spider visited world (begin_ spider visited world) []
  | advance {c : Crawl σ} {es : List (Settled σ)} {t : Task σ}
      (run : Chronicle spare spider visited world c es) (at_ : c.task? t.ticket = some t)
      (busy : t.phase.isEnded = false) :
      Chronicle spare spider visited world (c.advance spider t.ticket).2 es
  | settle {c c' : Crawl σ} {es : List (Settled σ)} {t : Task σ} {outcome : Outcome}
      (run : Chronicle spare spider visited world c es) (at_ : c.task? t.ticket = some t)
      (ended : t.phase = .ended outcome)
      (goes : (c.remove t.ticket).settleOutcome spider (tell spare t.ticket outcome) = some c') :
      Chronicle spare spider visited world c'
        (es ++ [⟨t.ticket, outcome, tell spare t.ticket outcome, c, c'⟩])

end Crawl

/-- A chronicle of a spider on a crawler, once it has been opened. -/
def Crawler.Chronicled (k : Crawler σ) (spare : Nat → Bool) (spider : Spider σ) (c : Crawl σ)
    (es : List (Crawl.Settled σ)) : Prop :=
  ∃ desk counters, spider.onOpen k.world.desk = (.ok (), desk) ∧
    Crawl.Chronicle spare spider k.visited { k.world with desk, counters } c es

namespace Crawl

variable {spider : Spider σ} {spider' : Spider τ} {visited : List String} {world : World σ}
  {world' : World τ} {c : Crawl σ} {c' : Crawl τ} {spare spare' : Nat → Bool}
  {es : List (Settled σ)} {es' : List (Settled τ)} {j : Journal}

theorem Run.chronicle (run : Run spider visited world c j) :
    ∃ es, Chronicle (fun _ => false) spider visited world c es ∧
      es.map (·.outcome) = j.settled.map Prod.snd := by
  induction run with
  | start => exact ⟨[], .start, rfl⟩
  | advance _ at_ busy ih =>
    obtain ⟨es, h, hes⟩ := ih
    exact ⟨es, h.advance at_ busy, hes⟩
  | settle _ at_ ended goes ih =>
    obtain ⟨es, h, hes⟩ := ih
    rw [settle_eq at_ ended] at goes
    exact ⟨_, h.settle at_ ended goes, by simp [hes]⟩

theorem Chronicle.run (h : Chronicle (fun _ => false) spider visited world c es) :
    ∃ j, Run spider visited world c j ∧ es.map (·.outcome) = j.settled.map Prod.snd := by
  induction h with
  | start => exact ⟨_, .start, rfl⟩
  | advance _ at_ busy ih =>
    obtain ⟨j, run, hes⟩ := ih
    exact ⟨_, run.advance at_ busy, hes⟩
  | settle _ at_ ended goes ih =>
    obtain ⟨j, run, hes⟩ := ih
    rw [tell, if_neg Bool.false_ne_true, ← settle_eq at_ ended] at goes
    exact ⟨_, run.settle at_ ended goes, by simp [hes]⟩

/-- A settlement leaves the world but for the counts of errors, each of which it raises by one if
that is what it was told. -/
theorem Chronicle.settled_world (h : Chronicle spare spider visited world c es) :
    ∀ s ∈ es, s.told = tell spare s.ticket s.outcome ∧ s.after.world =
      s.before.world.note (Stats.raise s.told.isParseError.toNat s.told.isStorageError.toNat) := by
  induction h with
  | start => simp
  | advance _ _ _ ih => exact ih
  | @settle c c' es t outcome _ at_ ended goes ih =>
    intro s hs
    rcases List.mem_append.mp hs with hs | hs
    · exact ih s hs
    · obtain rfl := List.mem_singleton.mp hs
      obtain ⟨requests, _, rfl⟩ := Option.map_eq_some_iff.mp goes
      obtain ⟨started, _, _, _, _, hworld⟩ := startUpTo_started
        (spider.config.slots - (c.remove t.ticket).tasks.length)
        (({ c.remove t.ticket with
            world := c.world.note (countOutcome (tell spare t.ticket outcome)) } : Crawl σ).offer
          spider requests)
      exact ⟨rfl, hworld.trans (by rw [countOutcome_eq]; rfl)⟩

/-! ## Runs of any two spiders -/

/-- Whether two spiders set the engine the same limits and start from the same requests. -/
structure SameLimits (spider : Spider σ) (spider' : Spider τ) : Prop where
  maxDepth : spider'.config.maxDepth = spider.config.maxDepth
  slots : spider'.config.slots = spider.config.slots
  revisit : spider'.config.revisit = spider.config.revisit
  domains : spider'.domains = spider.domains
  starts : spider'.startRequests = spider.startRequests

/-- Whether two settlements are of one task, and the engine is told the same or a failure is passed
over in the second. -/
def Excuses (s : Settled σ) (s' : Settled τ) : Prop :=
  s'.ticket = s.ticket ∧ (s'.told = s.told ∨ s'.told = s.told.excused)

theorem SameLimits.offerAll (same : SameLimits spider spider') (f : Frontier)
    (requests : List Request) :
    f.offerAll spider'.config spider'.domains requests =
      f.offerAll spider.config spider.domains requests := by
  have hoffer : Frontier.offer spider'.config spider'.domains =
      Frontier.offer spider.config spider.domains := by
    ext f r : 2
    have hadmits : f.admits spider'.config spider'.domains r =
        f.admits spider.config spider.domains r := by
      simp only [Frontier.admits, same.maxDepth, same.revisit, same.domains]
    simp only [Frontier.offer, hadmits]
  simp only [Frontier.offerAll, hoffer]

theorem view_startUpTo {c : Crawl σ} {c' : Crawl τ} (n : Nat) (alike : c'.view = c.view) :
    (startUpTo n c').view = (startUpTo n c).view := by
  induction n generalizing c c' with
  | zero => exact alike
  | succ n ih =>
    have hpending : c'.frontier.pending = c.frontier.pending :=
      congrArg (fun v => v.frontier.pending) alike
    cases hnext : c.frontier.pending with
    | nil => simpa only [startUpTo, hpending, hnext] using alike
    | cons r rest =>
      simp only [startUpTo, hpending, hnext]
      refine ih ?_
      simp only [view, View.mk.injEq] at alike
      obtain ⟨hfrontier, hdispatched, hflight⟩ := alike
      simp [view, hfrontier, hdispatched, hflight]

/-- Crawls that look alike do so after one task of each was settled with the same follow-ups. -/
theorem view_settleOutcome (same : SameLimits spider spider') {d : Crawl σ} {d' : Crawl τ}
    {o o' : Outcome} {ticket : Nat} (alike : c'.view = c.view)
    (leads : followUps? o' = followUps? o)
    (goes : (c.remove ticket).settleOutcome spider o = some d)
    (goes' : (c'.remove ticket).settleOutcome spider' o' = some d') : d'.view = d.view := by
  obtain ⟨requests, hrequests, rfl⟩ := Option.map_eq_some_iff.mp goes
  obtain ⟨requests', hrequests', rfl⟩ := Option.map_eq_some_iff.mp goes'
  obtain rfl : requests' = requests := by simpa [leads, hrequests] using hrequests'.symm
  simp only [view, View.mk.injEq] at alike
  obtain ⟨hfrontier, hdispatched, hflight⟩ := alike
  have hleft : (c'.remove ticket).tasks.map (fun t => (t.ticket, t.request)) =
      (c.remove ticket).tasks.map fun t => (t.ticket, t.request) := by
    have h := congrArg (List.filter fun p : Nat × Request => p.1 != ticket) hflight
    simpa only [List.filter_map, remove, Function.comp_def] using h
  have hlength : (c'.remove ticket).tasks.length = (c.remove ticket).tasks.length := by
    simpa using congrArg List.length hleft
  simp only [fill, offer, hlength, same.slots]
  refine view_startUpTo _ ?_
  simp only [view, View.mk.injEq]
  exact ⟨(same.offerAll _ _).trans (congrArg (Frontier.offerAll · _ _ _) hfrontier), hdispatched,
    hleft⟩

@[simp] theorem view_advance (spider : Spider σ) (c : Crawl σ) (ticket : Nat) :
    (c.advance spider ticket).2.view = c.view := by
  cases at_ : c.task? ticket with
  | none => simp only [Crawl.advance, at_]
  | some t =>
    simp only [Crawl.advance, at_, view, setPhase, List.map_map, View.mk.injEq, true_and]
    refine List.map_congr_left fun u _ => ?_
    simp only [Function.comp_apply]
    split_ifs <;> rfl

/-- A chronicle is one up to its last settlement, then that settlement, and since then nothing that
shows. -/
theorem Chronicle.last {s : Settled σ}
    (h : Chronicle spare spider visited world c (es ++ [s])) :
    Chronicle spare spider visited world s.before es ∧
      (s.before.remove s.ticket).settleOutcome spider s.told = some s.after ∧
      c.view = s.after.view := by
  generalize hall : es ++ [s] = all at h
  induction h with
  | start => simp at hall
  | advance _ at_ busy ih =>
    obtain ⟨hbefore, hsettle, hview⟩ := ih hall
    exact ⟨hbefore, hsettle, by rw [view_advance, hview]⟩
  | settle run at_ ended goes _ =>
    obtain ⟨rfl, hs⟩ := List.append_inj' hall rfl
    obtain rfl := List.singleton_inj.mp hs
    exact ⟨run, goes, rfl⟩

theorem Chronicle.view_unsettled (h : Chronicle spare spider visited world c []) :
    c.view = (begin_ spider visited world).view := by
  generalize none : ([] : List (Settled σ)) = es at h
  induction h with
  | start => rfl
  | advance _ _ _ ih => rw [view_advance, ih none]
  | settle => simp at none

/-- Crawls whose tasks leave in the same order with the same outcomes, but for failures that are
passed over, look alike after every settlement. -/
theorem Chronicle.view_eq (same : SameLimits spider spider')
    (h : Chronicle spare spider visited world c es)
    (h' : Chronicle spare' spider' visited world' c' es')
    (excuses : List.Forall₂ Excuses es es') :
    c'.view = c.view ∧ es'.map (·.after.view) = es.map (·.after.view) := by
  -- the last settlements are taken off both chronicles together
  induction es' using List.reverseRecOn generalizing c c' es with
  | nil =>
    obtain rfl := List.forall₂_nil_right_iff.mp excuses
    refine ⟨?_, rfl⟩
    rw [h.view_unsettled, h'.view_unsettled]
    simp only [begin_, fill, offer, same.slots, same.starts, same.offerAll]
    exact view_startUpTo _ rfl
  | append_singleton es' s' ih =>
    obtain ⟨es, last, rfl, hes, hlast⟩ := forall₂_append_right excuses
    obtain ⟨s, rest, ⟨hticket, htold⟩, hnil, rfl⟩ := List.forall₂_cons_right_iff.mp hlast
    obtain rfl := List.forall₂_nil_right_iff.mp hnil
    obtain ⟨hbefore, hsettle, hview⟩ := h.last
    obtain ⟨hbefore', hsettle', hview'⟩ := h'.last
    have leads : followUps? s'.told = followUps? s.told := by
      rcases htold with same | excused
      · rw [same]
      · rw [excused, followUps?_excused]
    obtain ⟨halike, hviews⟩ := ih hbefore hbefore' hes
    rw [hticket] at hsettle'
    have hafter := view_settleOutcome same halike leads hsettle hsettle'
    exact ⟨by rw [hview, hview', hafter], by simp [hviews, hafter]⟩

end Crawl

/-! ## Spiders that do not look at the counts of errors -/

namespace Stats

@[simp] theorem raise_comp_raise (p q p' q' : Nat) :
    raise p' q' ∘ raise p q = raise (p + p') (q + q') := by
  ext s : 1
  simp [raise, Nat.add_assoc]

theorem raise_injective (p q : Nat) : Function.Injective (raise p q) := by
  intro s s' h
  cases s
  cases s'
  simpa [raise] using h

end Stats

namespace World

@[simp] theorem note_note (w : World σ) (f g : Stats → Stats) :
    (w.note f).note g = w.note (g ∘ f) := rfl

theorem note_injective {f : Stats → Stats} (h : Function.Injective f) :
    Function.Injective fun w : World σ => w.note f := by
  intro w w' heq
  obtain ⟨site, asked, fetched, counters, stats, store⟩ := w
  obtain ⟨site', asked', fetched', counters', stats', store'⟩ := w'
  simp only [note, Desk.note, World.mk.injEq, Desk.mk.injEq] at heq ⊢
  exact ⟨heq.1, heq.2.1, heq.2.2.1, heq.2.2.2.1, h heq.2.2.2.2.1, heq.2.2.2.2.2⟩

end World

/-- Whether a reading neither looks at the counts of errors nor undoes them. -/
inductive Reading.Heedless : Reading σ → Prop
  | done (outcome : Outcome) : Heedless (.done outcome)
  | act {effect : Desk σ → Desk σ} {next : Desk σ → Reading σ}
      (leaves : ∀ d p q, effect (d.note (Stats.raise p q)) = (effect d).note (Stats.raise p q))
      (blind : ∀ d p q, next (d.note (Stats.raise p q)) = next d) (rest : ∀ d, Heedless (next d)) :
      Heedless (.act effect next)
  | count {what : Count} {rest : Reading σ} (h : Heedless rest) : Heedless (.count what rest)

/-- Whether a task does not look at the counts of errors. -/
def TaskPhase.Heedless : TaskPhase σ → Prop
  | .reading rest => rest.Heedless
  | _ => True

namespace Crawl

variable {spider : Spider σ} {visited : List String} {world : World σ} {c c' : Crawl σ}
  {spare : Nat → Bool} {es es' : List (Settled σ)}

theorem recordRequest_raise (k : Stats.Arithmetic Number.Floating) (s : Stats) (status size : Nat)
    (millis : Int) (p q : Nat) :
    (s.raise p q).recordRequest k status size millis =
      ((s.recordRequest k status size millis).1,
        Stats.raise p q (s.recordRequest k status size millis).2) := by
  simp only [Stats.Tally.recordRequest, Stats.Tally.countResponse, Stats.raise]
  split <;> rfl

/-- A fetch does not look at the counts of errors. -/
theorem fetchStep_raise (w : World σ) (walk : List (Retry.Category × Retry.CategoryConfig))
    (request : Request) (phase : FetchPhase) (p q : Nat) :
    (w.note (Stats.raise p q)).fetchStep walk request phase =
      ((w.fetchStep walk request phase).1,
        (w.fetchStep walk request phase).2.note (Stats.raise p q)) := by
  cases phase with
  | asking =>
    simp only [World.fetchStep_asking, World.note]
    cases w.site.reply w.asked request.url <;> rfl
  | arriving answer =>
    simp only [World.fetchStep, World.judge, World.note, World.countResponse, Desk.note,
      recordRequest_raise]
    rcases w.counters.consider walk request.url answer.status answer.body with
      ⟨_ | ⟨category, _ | delay⟩, counters⟩
    · rcases w.desk.stats.recordRequest Stats.doubles answer.status (Text.utf8Length answer.body) 0
        with ⟨_ | _, stats⟩ <;> rfl
    · rfl
    · rfl

/-- A step of a task that does not look at the counts of errors, in a world where they are
raised. -/
theorem taskStep_raise (spider : Spider σ) (request : Request) (w : World σ) {phase : TaskPhase σ}
    (heedless : phase.Heedless) (p q : Nat) :
    (taskStep spider request (w.note (Stats.raise p q)) phase).1 =
        (taskStep spider request w phase).1 ∧
      (taskStep spider request (w.note (Stats.raise p q)) phase).2.2 =
        (taskStep spider request w phase).2.2.note (Stats.raise p q) := by
  cases phase with
  | ended outcome => exact ⟨rfl, rfl⟩
  | fetching phase =>
    simp only [taskStep_fetching_phase, taskStep_fetching_world, fetchStep_raise, and_self]
  | reading rest =>
    cases heedless with
    | done outcome => exact ⟨rfl, rfl⟩
    | act leaves blind _ =>
      simp only [taskStep, readStep, World.note, blind, leaves, and_self]
    | @count what rest _ =>
      refine ⟨rfl, ?_⟩
      cases what <;> simp [taskStep, readStep, World.note, Desk.note, Count.add, Stats.raise,
        Stats.Tally.countItem, Stats.Tally.countDuplicate, Stats.Tally.countStorageError,
        Nat.add_right_comm]

/-- What a task goes on with does not look at the counts of errors either. -/
theorem taskStep_heedless (blind : ∀ p, (spider.read p).Heedless) (request : Request) (w : World σ)
    {phase : TaskPhase σ} (heedless : phase.Heedless) :
    (taskStep spider request w phase).1.Heedless := by
  cases phase with
  | ended outcome => trivial
  | fetching phase =>
    rw [taskStep_fetching_phase]
    rcases (w.fetchStep spider.config.retry.categories request phase).1 with ⟨phase, _⟩ | result
    · trivial
    · cases result with
      | response p =>
        simp only [afterFetch]
        split_ifs
        · exact blind p
        · trivial
      | _ => trivial
  | reading rest =>
    cases heedless with
    | done outcome => trivial
    | act _ _ rest => exact rest _
    | count rest => exact rest

theorem startUpTo_world (n : Nat) (c : Crawl σ) (w : World σ) :
    startUpTo n { c with world := w } = { startUpTo n c with world := w } := by
  induction n generalizing c with
  | zero => rfl
  | succ n ih =>
    cases hnext : c.frontier.pending with
    | nil => simp only [startUpTo, hnext]
    | cons r rest =>
      simp only [startUpTo, hnext]
      exact ih (c.start r rest)

/-- What the engine counted of the settlements of a chronicle. -/
def counted (es : List (Settled σ)) : Stats → Stats :=
  Stats.raise (es.countP (·.told.isParseError)) (es.countP (·.told.isStorageError))

theorem counted_concat (es : List (Settled σ)) (s : Settled σ) :
    counted (es ++ [s]) =
      Stats.raise s.told.isParseError.toNat s.told.isStorageError.toNat ∘ counted es := by
  cases hp : s.told.isParseError <;> cases hs : s.told.isStorageError <;>
    simp [counted, hp, hs]

/-- What a crawl leaves of its outcome: the world is counted in, and another world would be
too. -/
theorem settleOutcome_world {o o' : Outcome} (leads : followUps? o' = followUps? o) (w : World σ)
    (goes : c.settleOutcome spider o = some c') :
    c'.world = c.world.note (countOutcome o) ∧
      ({ c with world := w } : Crawl σ).settleOutcome spider o' =
        some { c' with world := w.note (countOutcome o') } := by
  obtain ⟨requests, hrequests, rfl⟩ := Option.map_eq_some_iff.mp goes
  have hfill : ∀ w' : World σ,
      (({ c with world := w' } : Crawl σ).offer spider requests).fill spider.config.slots =
        { (c.offer spider requests).fill spider.config.slots with world := w' } :=
    fun w' => startUpTo_world _ (c.offer spider requests) w'
  refine ⟨by rw [hfill], ?_⟩
  rw [settleOutcome, leads, hrequests, hfill (c.world.note (countOutcome o))]
  exact congrArg some (hfill (w.note (countOutcome o')))

/-- No task of a spider that does not look at the counts of errors ever does. -/
theorem Chronicle.heedless (blind : ∀ p, (spider.read p).Heedless)
    (h : Chronicle spare spider visited world c es) : ∀ t ∈ c.tasks, t.phase.Heedless := by
  have new : ∀ {t : Task σ}, t.phase = .fetching .asking → t.phase.Heedless := by
    intro t ht
    rw [ht]
    trivial
  induction h with
  | start => exact fun t ht => new ((begin_started spider visited world).2 t ht)
  | @advance c es t _ at_ _ ih =>
    intro u hu
    rw [advance_eq at_] at hu
    obtain ⟨v, hv, rfl⟩ := List.mem_map.mp hu
    split_ifs
    · exact taskStep_heedless blind _ _ (ih t (List.mem_of_find?_eq_some at_))
    · exact ih v hv
  | @settle c c' es t outcome _ _ _ goes ih =>
    obtain ⟨requests, _, rfl⟩ := Option.map_eq_some_iff.mp goes
    obtain ⟨started, hasking, _, htasks, _, _⟩ := startUpTo_started
      (spider.config.slots - (c.remove t.ticket).tasks.length)
      (({ c.remove t.ticket with
          world := c.world.note (countOutcome (tell spare t.ticket outcome)) } : Crawl σ).offer
        spider requests)
    intro u hu
    rcases List.mem_append.mp (htasks ▸ hu) with hu | hu
    · exact ih u (List.mem_of_mem_filter hu)
    · exact new (hasking u hu)

/-- Whether a settlement is another one with other tasks spared. -/
def Retold (spare : Nat → Bool) (s s' : Settled σ) : Prop :=
  s'.ticket = s.ticket ∧ s'.outcome = s.outcome ∧ s'.told = tell spare s.ticket s.outcome

/-- If a spider does not look at the counts of errors, its runs go in step whichever tasks are
spared: the worlds agree once each is counted in what only the other one was told. -/
theorem Chronicle.in_step (blind : ∀ p, (spider.read p).Heedless)
    (h : Chronicle spare spider visited world c es) (spare' : Nat → Bool) :
    ∃ w es', Chronicle spare' spider visited world { c with world := w } es' ∧
      c.world.note (counted es') = w.note (counted es) ∧ List.Forall₂ (Retold spare') es es' := by
  induction h with
  | start => exact ⟨_, [], .start, rfl, .nil⟩
  | @advance c es t run at_ busy ih =>
    obtain ⟨w, es', run', hworld, hretold⟩ := ih
    have heedless := run.heedless blind t (List.mem_of_find?_eq_some at_)
    obtain ⟨hphase, hafter⟩ := taskStep_raise spider t.request c.world heedless
      (es'.countP (·.told.isParseError)) (es'.countP (·.told.isStorageError))
    obtain ⟨hphase', hafter'⟩ := taskStep_raise spider t.request w heedless
      (es.countP (·.told.isParseError)) (es.countP (·.told.isStorageError))
    have hstep : ({ c with world := w }.advance spider t.ticket).2 =
        { (c.advance spider t.ticket).2 with
          world := (taskStep spider t.request w t.phase).2.2 } := by
      have at' : ({ c with world := w } : Crawl σ).task? t.ticket = some t := at_
      have hsame : (taskStep spider t.request w t.phase).1 =
          (taskStep spider t.request c.world t.phase).1 := by
        rw [← hphase, ← hphase', ← counted, ← counted, hworld]
      rw [advance_eq at_, advance_eq at', hsame]
      rfl
    refine ⟨_, es', hstep ▸ run'.advance at_ busy, ?_, hretold⟩
    rw [advance_eq at_, counted, counted]
    exact hafter.symm.trans ((congrArg (fun v => (taskStep spider t.request v t.phase).2.2)
      hworld).trans hafter')
  | @settle c c' es t outcome run at_ ended goes ih =>
    obtain ⟨w, es', run', hworld, hretold⟩ := ih
    have leads : followUps? (tell spare' t.ticket outcome) =
        followUps? (tell spare t.ticket outcome) := by
      simp only [tell]
      split_ifs <;> simp only [followUps?_excused]
    obtain ⟨hafter, goes'⟩ := settleOutcome_world leads w goes
    refine ⟨_, _, run'.settle at_ ended goes', ?_,
      List.rel_append hretold (.cons ⟨rfl, rfl, rfl⟩ .nil)⟩
    -- both worlds were counted in what the two engines were told now
    have hnow := congrArg (fun v => (v.note (countOutcome (tell spare' t.ticket outcome))).note
      (countOutcome (tell spare t.ticket outcome))) hworld
    rw [hafter, counted_concat, counted_concat]
    simpa only [countOutcome_eq, counted, World.note_note, Stats.raise_comp_raise, remove,
      Nat.add_comm, Nat.add_left_comm] using hnow

/-- Errors of a kind that the engine is told of without sparing are those it is told of with
sparing and those passed over. -/
theorem countP_told {q : Outcome → Bool} (hq : ∀ o : Outcome, q o.excused = false)
    (retold : List.Forall₂ (fun s s' => s.told = s.outcome ∧ Retold spare s s') es es') :
    es.countP (fun s => q s.told) =
      es.countP (fun s => spare s.ticket && q s.outcome) + es'.countP (fun s => q s.told) := by
  induction retold with
  | nil => rfl
  | @cons s s' es es' h _ ih =>
    obtain ⟨heard, _, _, retold⟩ := h
    simp only [List.countP_cons, heard, retold, tell]
    cases hspare : spare s.ticket with
    | true =>
      simp only [Bool.true_and, if_true, hq, Bool.false_eq_true, if_false]
      omega
    | false =>
      simp only [Bool.false_and, Bool.false_eq_true, if_false]
      omega

/-- Whether a crawl with its settlements is another one with the failures of some tasks passed over:
it looks the same after every settlement and its tasks stand the same, and the counts of errors are
less by one for each that was passed over. -/
structure Spared (spare : Nat → Bool) (c : Crawl σ) (es : List (Settled σ)) (c' : Crawl σ)
    (es' : List (Settled σ)) : Prop where
  settled : List.Forall₂ (Retold spare) es es'
  views : es'.map (·.after.view) = es.map (·.after.view)
  frontier : c'.frontier = c.frontier
  dispatched : c'.dispatched = c.dispatched
  tasks : c'.tasks = c.tasks
  world : c.world = c'.world.note (Stats.raise
    (es.countP fun s => spare s.ticket && s.outcome.isParseError)
    (es.countP fun s => spare s.ticket && s.outcome.isStorageError))

/-- Two chronicles in step, the first of which spares nothing. -/
theorem spared_of_in_step {w : World σ}
    (h : Chronicle (fun _ => false) spider visited world c es)
    (h' : Chronicle spare spider visited world { c with world := w } es')
    (hworld : c.world.note (counted es') = w.note (counted es))
    (retold : List.Forall₂ (Retold spare) es es') :
    Spared spare c es { c with world := w } es' := by
  have heard : ∀ s ∈ es, s.told = s.outcome := fun s hs => (h.settled_world s hs).1
  have hboth := (List.forall₂_and_left _ _).mpr ⟨heard, retold⟩
  have excuses : List.Forall₂ Excuses es es' := by
    refine hboth.imp fun s s' ⟨heard, hticket, _, htold⟩ => ⟨hticket, ?_⟩
    rw [htold, heard, tell]
    split_ifs
    · exact Or.inr rfl
    · exact Or.inl rfl
  refine ⟨retold, (h.view_eq ⟨rfl, rfl, rfl, rfl, rfl⟩ h' excuses).2, rfl, rfl, rfl, ?_⟩
  refine World.note_injective (Stats.raise_injective _ _) (hworld.trans ?_)
  rw [counted, countP_told Outcome.isParseError_excused hboth,
    countP_told Outcome.isStorageError_excused hboth, ← Stats.raise_comp_raise]
  rfl

end Crawl

/-- A spider that was opened returns well with its end noted, whatever its tasks ended with, and it
does so once no task is left. If the failures of some tasks are passed over, the addresses seen, the
queue, the dispatches and the tasks in flight are the same after every settlement: for any two
spiders whose tasks leave with the same outcomes otherwise, and for a spider that does not look at
the counts of errors at every moment. What the engine keeps of a failure is one parse error or one
storage error. -/
theorem crawl_isolates_failures {spider : Spider σ} {k : Crawler σ} {desk : Desk σ}
    (opened : spider.onOpen k.world.desk = (.ok (), desk)) :
    (∀ result k', k.Returns spider result k' →
        result = .ok () ∧ k'.world.desk.stats.finished = true) ∧
      (∀ fuel, (k.run spider fuel).1.result = .ok () ∧
        (k.run spider fuel).2.world.desk.stats.finished = true) ∧
      (∀ c j, k.Running spider c j →
        ((∀ t ∈ c.tasks, t.phase ≠ .ended .stop) →
          (c.tasks = [] ∧ c.frontier.pending = [] ∧ k.Returns spider (.ok ()) (c.closed spider)) ∨
            ∃ c', Crawl.Next spider c c') ∧
        (c.Halts spider → ∃ k', k.Returns spider (.ok ()) k') ∧
        ∃ es, k.Chronicled (fun _ => false) spider c es ∧
          es.map (·.outcome) = j.settled.map Prod.snd) ∧
      (∀ c es, k.Chronicled (fun _ => false) spider c es → ∃ j, k.Running spider c j) ∧
      (∀ spare c es, k.Chronicled spare spider c es →
        (∀ s ∈ es, s.told = Crawl.tell spare s.ticket s.outcome ∧
          s.after.world = s.before.world.note
            (Stats.raise s.told.isParseError.toNat s.told.isStorageError.toNat)) ∧
        ∀ {τ : Type} (spider' : Spider τ) (k' : Crawler τ) spare' c' es',
          Crawl.SameLimits spider spider' → k'.visited = k.visited →
          k'.Chronicled spare' spider' c' es' → List.Forall₂ Crawl.Excuses es es' →
          c'.view = c.view ∧ es'.map (·.after.view) = es.map (·.after.view)) ∧
      ((∀ p, (spider.read p).Heedless) → ∀ spare,
        (∀ c es, k.Chronicled (fun _ => false) spider c es →
          ∃ c' es', k.Chronicled spare spider c' es' ∧ Crawl.Spared spare c es c' es') ∧
        ∀ c' es', k.Chronicled spare spider c' es' →
          ∃ c es, k.Chronicled (fun _ => false) spider c es ∧
            Crawl.Spared spare c es c' es') := by
  refine ⟨fun result k' h => h.ok opened, fun fuel => ?_, fun c j running => ?_, ?_, ?_, ?_⟩
  · have h := Crawler.run_opened opened fuel
    exact ⟨h.1, h.2.1⟩
  · refine ⟨running.returns_or_next, running.exists_return, ?_⟩
    obtain ⟨desk, counters, opened, run⟩ := running
    obtain ⟨es, h, hes⟩ := run.chronicle
    exact ⟨es, ⟨desk, counters, opened, h⟩, hes⟩
  · rintro c es ⟨desk, counters, opened, h⟩
    obtain ⟨j, run, _⟩ := h.run
    exact ⟨j, desk, counters, opened, run⟩
  · rintro spare c es ⟨desk, counters, _, h⟩
    refine ⟨h.settled_world, ?_⟩
    rintro τ spider' k' spare' c' es' same seen ⟨desk', counters', _, h'⟩ excuses
    rw [seen] at h'
    exact h.view_eq same h' excuses
  · intro blind spare
    constructor
    · rintro c es ⟨desk, counters, opened, h⟩
      obtain ⟨w, es', h', hworld, retold⟩ := h.in_step blind spare
      exact ⟨_, es', ⟨desk, counters, opened, h'⟩, Crawl.spared_of_in_step h h' hworld retold⟩
    · rintro c' es' ⟨desk, counters, opened, h'⟩
      obtain ⟨w, es, h, hworld, retold⟩ := h'.in_step blind fun _ => false
      refine ⟨_, es, ⟨desk, counters, opened, h⟩,
        Crawl.spared_of_in_step h h' hworld.symm ?_⟩
      -- the spared settlements were told by the choice of tasks, the others as they were
      have hboth := (List.forall₂_and_left _ _).mpr ⟨fun s hs => (h'.settled_world s hs).1, retold⟩
      refine List.Forall₂.flip (hboth.imp fun s' s ⟨htold, hticket, houtcome, _⟩ => ?_)
      exact ⟨hticket.symm, houtcome.symm, by rw [htold, hticket, houtcome]⟩

/-- A spider that can read neither of its two pages. -/
def baffledSpider : Spider Unit := sampleSpider ["a", "b"] (.failed (.parsing "no table"))

/-- What it comes to by the clock. -/
def baffledCrawl : Crawl Unit :=
  (TimedCrawl.run baffledSpider 20
    ((sampleCrawler []).timed baffledSpider (sampleCrawler []).world.desk)).crawl

/-- Whether its failures are passed over or not, both pages are fetched. -/
theorem crawl_isolates_failures_sample :
    baffledCrawl.tasks = [] ∧ baffledCrawl.dispatched.length = 2 ∧
      baffledCrawl.world.desk.stats.parseErrors = 2 ∧ ∃ c es,
        (sampleCrawler []).Chronicled (fun _ => true) baffledSpider c es ∧
          c.dispatched = baffledCrawl.dispatched ∧ c.tasks = [] ∧
          c.world.desk.stats.parseErrors = 0 := by
  have quiet : baffledCrawl.tasks = [] := List.isEmpty_iff.mp (by decide +kernel)
  have errors : baffledCrawl.world.desk.stats.parseErrors = 2 := by decide +kernel
  have opened : baffledSpider.onOpen (sampleCrawler []).world.desk =
    (.ok (), (sampleCrawler []).world.desk) := rfl
  have h := crawl_isolates_failures opened
  obtain ⟨_, _, es, hes, houtcomes⟩ := h.2.2.1 baffledCrawl _
    ((sampleCrawler []).running_timed baffledSpider 20 opened)
  obtain ⟨c, es', hes', spared⟩ := (h.2.2.2.2.2 (fun p => .done _) fun _ => true).1 _ _ hes
  refine ⟨quiet, by decide +kernel, errors, c, es', hes', spared.dispatched,
    spared.tasks.trans quiet, ?_⟩
  -- both outcomes are among those passed over
  have hcount : es.countP (fun s => s.outcome.isParseError) = 2 := by
    have hmap : (es.map (·.outcome)).countP (·.isParseError) = 2 := by
      rw [houtcomes]
      decide +kernel
    rwa [List.countP_map] at hmap
  have hworld := congrArg (fun w => w.desk.stats.parseErrors) spared.world
  simp only [World.note, Desk.note, Stats.raise, Bool.true_and, hcount, errors] at hworld
  omega

end SiteSpiders

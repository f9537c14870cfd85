import SiteSpiders.Proofs.Crawl.Ledger

/-!
# The course of one fetch

A fetch goes on for as long as the answers of its site make it: it has no count of its own,
and every answer may fall under another category. What bounds it is what the categories have
left for its address. One fetch is followed from its beginning to its end, against any site
and among any other work that leaves the counters of its address alone.
-/
namespace SiteSpiders

open Retry

variable {σ : Type}

/-- The states that counters can come to: those after any decisions, whatever the categories were at
the time of each. -/
inductive Retry.Counters.Reached : Counters → Prop
  | new : Reached {}
  | decision {c : Counters} (reached : Reached c) (walk : List (Category × CategoryConfig))
      (url : Url) (status : Nat) (content : String) :
      Reached (c.consider walk url status content).2

theorem Retry.Counters.Reached.sound {c : Counters} (reached : c.Reached) (url : Url) :
    (c.usage url).Sound := by
  induction reached with
  | new => exact Usage.sound_empty
  | @decision c _ walk at_ status content ih =>
    rcases c.consider_cases walk at_ status content with ⟨heq, _⟩ | ⟨k, _, _, _, heq⟩
    · rw [heq]
      exact ih
    · rw [heq, usage_assign]
      split_ifs with same
      · have husage : c.usage at_ = c.usage url := by simp only [usage, same]
        rw [husage]
        exact ih.spend k.1
      · exact ih

/-- What a fetch has done itself: its steps, the outcomes of its exchanges in order, and what it
added to the counts of retries and of failed requests. -/
structure Doings where
  steps : Nat := 0
  outcomes : List (Except Fault Arrival) := []
  retries : Nat := 0
  failures : Nat := 0

/-- The outcome of the exchange that a phase of a fetch makes, if it makes one. -/
def World.outcomes (w : World σ) (url : Url) : FetchPhase → List (Except Fault Arrival)
  | .asking => [w.site.reply w.asked url]
  | .arriving _ => []

/-- What a fetch has done after one more step, which changes one world into another. -/
def Doings.andStep (d : Doings) (url : Url) (phase : FetchPhase) (w w' : World σ) : Doings where
  steps := d.steps + 1
  outcomes := d.outcomes ++ w.outcomes url phase
  retries := d.retries + (w'.desk.stats.retryCount - w.desk.stats.retryCount)
  failures := d.failures + (w'.desk.stats.failedRequests - w.desk.stats.failedRequests)

/-- What a fetch can come to. Each step walks the categories of the policy in an order of its own.
Between its steps the world may change in any way, the site included, but for what the address has
used: no other fetch of the address is under way. -/
inductive Course (policy : Policy) (request : Request) (world : World σ) :
    Doings → World σ → FetchState → Prop
  | start : Course policy request world {} world (.going .asking)
  | step {d : Doings} {w : World σ} {phase : FetchPhase} {walk : List (Category × CategoryConfig)}
      (course : Course policy request world d w (.going phase))
      (order : walk.Perm policy.categories) :
      Course policy request world
        (d.andStep request.url phase w (w.fetchStep walk request phase).2)
        (w.fetchStep walk request phase).2 (w.fetchStep walk request phase).1.state
  | meanwhile {d : Doings} {w : World σ} {phase : FetchPhase}
      (course : Course policy request world d w (.going phase)) (w' : World σ)
      (apart : w'.counters.usage request.url = w.counters.usage request.url) :
      Course policy request world d w' (.going phase)

/-- Recording a response leaves the retries, and the bytes too if it breaks off. -/
theorem recordRequest_spares (k : Stats.Arithmetic Number.Floating) (s : Stats) (status size : Nat)
    (millis : Int) :
    (s.recordRequest k status size millis).2.retryCount = s.retryCount ∧
      ∀ crash, (s.recordRequest k status size millis).1 = .error crash →
        (s.recordRequest k status size millis).2.bytesDownloaded = s.bytesDownloaded := by
  unfold Stats.Tally.recordRequest
  dsimp only
  cases addWord (s.countResponse status).bytesDownloaded size with
  | error crash => exact ⟨rfl, fun _ _ => rfl⟩
  | ok bytes => exact ⟨rfl, nofun⟩

/-- An answer is tried again if a category that applies has attempts left, one of which is then
used, unless the delay breaks off. Otherwise the fetch ends with the answer, unless its size cannot
be counted. -/
theorem World.judge_outcome {policy : Policy} {walk : List (Category × CategoryConfig)}
    (order : walk.Perm policy.categories) (w : World σ) (request : Request) (answer : Arrival) :
    (∃ k ∈ policy.categories, k.2.applies answer.status answer.body = true ∧
        (w.counters.usage request.url).count k.1 < k.2.maxRetries ∧
        (w.judge walk request answer).2.counters.usage request.url =
          (w.counters.usage request.url).spend k.1 ∧
        ((w.judge walk request answer).1.state = .going .asking ∧
            (w.judge walk request answer).2.desk.stats = w.desk.stats.recordRetry k.1.label ∨
          ∃ crash : Crash, crash.OfDelay ∧
            (w.judge walk request answer).1.state = .ended (.crashed crash))) ∨
      (∀ k ∈ policy.categories, k.2.applies answer.status answer.body = true →
          k.2.maxRetries ≤ (w.counters.usage request.url).count k.1) ∧
        (w.judge walk request answer).2.counters = w.counters ∧
        (w.judge walk request answer).2.desk.stats.retryCount = w.desk.stats.retryCount ∧
        ((w.judge walk request answer).1.state = .ended (.response
            { url := answer.url, status := answer.status, body := answer.body
              retryCount := (w.counters.usage request.url).total
              retryHistory := (w.counters.usage request.url).counts, request }) ∨
          (w.judge walk request answer).1.state = .ended (.crashed .addOverflow) ∧
            wordBound ≤ (w.judge walk request answer).2.desk.stats.bytesDownloaded +
              Text.utf8Length answer.body) := by
  obtain ⟨stats, hworld, hstep⟩ := w.judge_spec walk request answer
  rcases w.counters.consider_cases walk request.url answer.status answer.body with
    ⟨hconsider, hall⟩ | ⟨k, hk, applies, hleft, hconsider⟩
  · rw [hconsider] at hworld hstep
    rcases hstep with ⟨_, _, hretry, _⟩ | ⟨_, _, hretry, _⟩ | ⟨_, rfl, hend⟩
    · cases hretry
    · cases hretry
    obtain ⟨hretries, hbytes⟩ := recordRequest_spares Stats.doubles w.desk.stats answer.status
      (Text.utf8Length answer.body) 0
    refine Or.inr ⟨fun k hk => hall k (order.mem_iff.mpr hk), ?_, ?_, ?_⟩
    · rw [hworld]
    · rw [hworld]
      exact hretries
    · rcases hend with ⟨crash, hrecord, hend⟩ | hend
      · obtain ⟨rfl, hfull⟩ := (recordRequest_bytes Stats.doubles w.desk.stats answer.status
          (Text.utf8Length answer.body) 0).2 crash hrecord
        rw [← hbytes _ hrecord] at hfull
        rw [hend, hworld]
        exact Or.inr ⟨rfl, hfull⟩
      · rw [hend]
        exact Or.inl rfl
  · rw [hconsider] at hworld hstep
    refine Or.inl ⟨k, order.mem_iff.mp hk, applies, hleft, ?_, ?_⟩
    · rw [hworld, Counters.usage_assign, if_pos rfl]
    · rcases hstep with ⟨_, crash, hretry, hend, _⟩ | ⟨_, _, hretry, hpause, rfl⟩ | ⟨hkept, _⟩
      · obtain ⟨_, hdelay⟩ := Prod.mk.inj (Option.some.inj hretry)
        exact Or.inr ⟨crash, delay_error hdelay, by rw [hend]; rfl⟩
      · obtain ⟨rfl, _⟩ := Prod.mk.inj (Option.some.inj hretry)
        exact Or.inl ⟨by rw [hpause]; rfl, by rw [hworld]⟩
      · cases hkept

/-- Whether no outcome is a fault. -/
def Faultless (outcomes : List (Except Fault Arrival)) : Prop :=
  ∀ fault, Except.error fault ∉ outcomes

namespace Course

variable {policy : Policy} {request : Request} {world w : World σ} {d : Doings} {state : FetchState}

/-- The account of a fetch: the counters of its address are those at first and its retries, which
were taken from what was left at first. It has made an exchange for each retry and two steps, and
some exchanges and steps beyond that. -/
structure Paced (policy : Policy) (earlier now : Usage) (d : Doings) (exchanges steps : Nat) :
    Prop where
  sound : now.Sound
  total : now.total = earlier.total + d.retries
  room : d.retries + now.left policy.categories ≤ earlier.left policy.categories
  exchanged : d.outcomes.length = d.retries + exchanges
  stepped : d.steps = 2 * d.retries + steps

section Paced

variable {earlier now : Usage} {exchanges steps : Nat}

theorem Paced.bounded (h : Paced policy earlier now d exchanges steps) (single : exchanges ≤ 1)
    (few : steps ≤ 2 * exchanges) :
    d.outcomes.length ≤ 1 + earlier.left policy.categories ∧ d.steps ≤ 2 * d.outcomes.length := by
  have hroom := h.room
  have hexchanged := h.exchanged
  have hstepped := h.stepped
  constructor <;> omega

/-- An exchange is one more, and a step. -/
theorem Paced.exchange (h : Paced policy earlier now d 0 0) (outcome : Except Fault Arrival)
    (failures : Nat) :
    Paced policy earlier now ⟨d.steps + 1, d.outcomes ++ [outcome], d.retries, failures⟩ 1 1 where
  sound := h.sound
  total := h.total
  room := h.room
  exchanged := by rw [List.length_append, h.exchanged, List.length_singleton]
  stepped := congrArg (· + 1) h.stepped

/-- A retry takes an attempt from what is left, and asks anew. -/
theorem Paced.retry (h : Paced policy earlier now d 1 1) {k : Category × CategoryConfig}
    (hk : k ∈ policy.categories) (hleft : now.count k.1 < k.2.maxRetries) :
    Paced policy earlier (now.spend k.1) ⟨d.steps + 1, d.outcomes, d.retries + 1, d.failures⟩
      0 0 where
  sound := h.sound.spend k.1
  total := congrArg (· + 1) h.total
  room := by
    have hroom := h.room
    have hspent := Usage.left_spend_lt hk hleft
    dsimp only
    omega
  exchanged := h.exchanged
  stepped := congrArg (· + 1) h.stepped

theorem Paced.keep (h : Paced policy earlier now d 1 1) (failures : Nat) :
    Paced policy earlier now ⟨d.steps + 1, d.outcomes, d.retries, failures⟩ 1 2 where
  sound := h.sound
  total := h.total
  room := h.room
  exchanged := h.exchanged
  stepped := congrArg (· + 1) h.stepped

end Paced

/-- What a fetch that stands somewhere has done. As long as it has not failed, no exchange has. -/
def Standing (policy : Policy) (request : Request) (earlier : Usage) (d : Doings) (w : World σ) :
    FetchState → Prop
  | .going .asking =>
    Paced policy earlier (w.counters.usage request.url) d 0 0 ∧ d.failures = 0 ∧
      Faultless d.outcomes
  | .going (.arriving answer) =>
    Paced policy earlier (w.counters.usage request.url) d 1 1 ∧ d.failures = 0 ∧
      Faultless d.outcomes ∧ d.outcomes.getLast? = some (.ok answer)
  | .ended (.response r) =>
    Paced policy earlier (w.counters.usage request.url) d 1 2 ∧
      Faultless d.outcomes ∧ ∃ answer, d.outcomes.getLast? = some (.ok answer) ∧
        r = { url := answer.url, status := answer.status, body := answer.body
              retryCount := (w.counters.usage request.url).total
              retryHistory := (w.counters.usage request.url).counts, request }
  | .ended (.failed fault) =>
    Paced policy earlier (w.counters.usage request.url) d 1 1 ∧ d.failures = 1 ∧
      ∃ answered, Faultless answered ∧ d.outcomes = answered ++ [.error fault]
  | .ended (.crashed crash) =>
    -- What a retry takes stays taken if its delay breaks off.
    (d.outcomes.length ≤ 1 + earlier.left policy.categories ∧ d.steps ≤ 2 * d.outcomes.length) ∧
      Faultless d.outcomes ∧
      (crash.OfDelay ∨ crash = .addOverflow ∧ ∃ answer, d.outcomes.getLast? = some (.ok answer) ∧
        wordBound ≤ w.desk.stats.bytesDownloaded + Text.utf8Length answer.body)

theorem faultless_append_ok {outcomes : List (Except Fault Arrival)} (h : Faultless outcomes)
    (answer : Arrival) : Faultless (outcomes ++ [.ok answer]) := by
  intro fault hmem
  rcases List.mem_append.mp hmem with hmem | hmem
  · exact h fault hmem
  · cases List.mem_singleton.mp hmem

section Steps

variable {earlier : Usage} {walk : List (Category × CategoryConfig)}

/-- An exchange. -/
theorem standing_asking (h : Standing policy request earlier d w (.going .asking)) :
    Standing policy request earlier
      (d.andStep request.url .asking w (w.fetchStep walk request .asking).2)
      (w.fetchStep walk request .asking).2 (w.fetchStep walk request .asking).1.state := by
  obtain ⟨paced, hfailures, faultless⟩ := h
  rw [World.fetchStep_asking]
  cases hreply : w.site.reply w.asked request.url with
  | error fault =>
    have hdone : d.andStep request.url .asking w
        (({ w with asked := request.url :: w.asked } : World σ).note fun s => s.recordFailure) =
        ⟨d.steps + 1, d.outcomes ++ [.error fault], d.retries, d.failures + 1⟩ := by
      simp [Doings.andStep, World.outcomes, hreply, World.note, Desk.note,
        Stats.Tally.recordFailure]
    dsimp only
    rw [hdone]
    exact ⟨paced.exchange _ _, congrArg (· + 1) hfailures, d.outcomes, faultless, rfl⟩
  | ok answer =>
    have hdone : d.andStep request.url .asking w
        { w with asked := request.url :: w.asked, fetched := request.url :: w.fetched } =
        ⟨d.steps + 1, d.outcomes ++ [.ok answer], d.retries, d.failures⟩ := by
      simp [Doings.andStep, World.outcomes, hreply]
    dsimp only
    rw [hdone]
    exact ⟨paced.exchange _ _, hfailures, faultless_append_ok faultless answer,
      List.getLast?_concat⟩

/-- The judgement of an answer. -/
theorem standing_arriving (order : walk.Perm policy.categories) {answer : Arrival}
    (h : Standing policy request earlier d w (.going (.arriving answer))) :
    Standing policy request earlier
      (d.andStep request.url (.arriving answer) w
        (w.fetchStep walk request (.arriving answer)).2)
      (w.fetchStep walk request (.arriving answer)).2
      (w.fetchStep walk request (.arriving answer)).1.state := by
  obtain ⟨paced, hfailures, faultless, hlast⟩ := h
  have hdone : ∀ w', d.andStep request.url (.arriving answer) w w' =
      ⟨d.steps + 1, d.outcomes, d.retries + (w'.desk.stats.retryCount - w.desk.stats.retryCount),
        d.failures + (w'.desk.stats.failedRequests - w.desk.stats.failedRequests)⟩ := by
    intro w'
    rw [Doings.andStep, World.outcomes, List.append_nil]
  have hbounded := (paced.keep d.failures).bounded (Nat.le_refl _) (Nat.le_refl _)
  simp only [World.fetchStep]
  rw [hdone]
  rcases w.judge_outcome order request answer with
    ⟨k, hk, -, hleft, husage, ⟨hstate, hstats⟩ | ⟨crash, ofDelay, hstate⟩⟩ |
    ⟨-, hcounters, hretries, hstate | ⟨hstate, hfull⟩⟩
  · have hretry : (w.desk.stats.recordRetry k.1.label).retryCount - w.desk.stats.retryCount = 1 :=
      Nat.add_sub_cancel_left _ _
    have hfailed : (w.desk.stats.recordRetry k.1.label).failedRequests -
        w.desk.stats.failedRequests = 0 := Nat.sub_self _
    rw [hstate, hstats, hretry, hfailed, Standing, husage]
    exact ⟨paced.retry hk hleft, hfailures, faultless⟩
  · rw [hstate]
    exact ⟨hbounded, faultless, Or.inl ofDelay⟩
  · rw [hstate, hretries, Nat.sub_self, Standing, hcounters]
    exact ⟨paced.keep _, faultless, answer, hlast, rfl⟩
  · rw [hstate]
    exact ⟨hbounded, faultless, Or.inr ⟨rfl, answer, hlast, hfull⟩⟩

end Steps

/-- Wherever the course of a fetch leads, it has done what its standing says. -/
theorem standing (reached : world.counters.Reached)
    (course : Course policy request world d w state) :
    Standing policy request (world.counters.usage request.url) d w state := by
  induction course with
  | start =>
    exact ⟨⟨reached.sound _, rfl, Nat.le_of_eq (Nat.zero_add _), rfl, rfl⟩, rfl,
      fun _ => List.not_mem_nil⟩
  | @step d w phase walk _ order ih =>
    cases phase with
    | asking => exact standing_asking ih
    | arriving answer => exact standing_arriving order ih
  | @meanwhile d w phase _ w' apart ih =>
    cases phase with
    | asking =>
      obtain ⟨paced, hdone⟩ := ih
      exact ⟨apart.symm ▸ paced, hdone⟩
    | arriving answer =>
      obtain ⟨paced, hdone⟩ := ih
      exact ⟨apart.symm ▸ paced, hdone⟩

section Standing

variable {earlier : Usage}

/-- The exchanges of a fetch, and its steps, are bounded by what the categories had left. -/
theorem Standing.bounded (h : Standing policy request earlier d w state) :
    d.outcomes.length ≤ 1 + earlier.left policy.categories ∧
      d.steps ≤ 2 * d.outcomes.length := by
  cases state with
  | going phase =>
    cases phase with
    | asking => exact h.1.bounded (Nat.zero_le _) (Nat.le_refl _)
    | arriving answer => exact h.1.bounded (Nat.le_refl _) (by decide)
  | ended result =>
    cases result with
    | response r => exact h.1.bounded (Nat.le_refl _) (Nat.le_refl _)
    | failed fault => exact h.1.bounded (Nat.le_refl _) (by decide)
    | crashed crash => exact h.1

/-- A fault is the outcome of an exchange just if the fetch failed with it. -/
theorem Standing.fault_iff (h : Standing policy request earlier d w state) (fault : Fault) :
    .error fault ∈ d.outcomes ↔ state = .ended (.failed fault) := by
  cases state with
  | going phase =>
    cases phase with
    | asking =>
      obtain ⟨-, -, faultless⟩ := h
      exact iff_of_false (faultless fault) nofun
    | arriving answer =>
      obtain ⟨-, -, faultless, -⟩ := h
      exact iff_of_false (faultless fault) nofun
  | ended result =>
    cases result with
    | response r =>
      obtain ⟨-, faultless, -⟩ := h
      exact iff_of_false (faultless fault) nofun
    | failed other =>
      obtain ⟨-, -, answered, faultless, houtcomes⟩ := h
      rw [houtcomes, List.mem_append, List.mem_singleton]
      constructor
      · rintro (hmem | heq)
        · exact absurd hmem (faultless fault)
        · rw [Except.error.inj heq]
      · rintro heq
        cases heq
        exact Or.inr rfl
    | crashed crash =>
      obtain ⟨-, faultless, -⟩ := h
      exact iff_of_false (faultless fault) nofun

end Standing

/-- A fetch by itself is one course, and ends. -/
theorem fetchFrom_ends (reached : world.counters.Reached)
    {walk : List (Category × CategoryConfig)} (order : walk.Perm policy.categories) (fuel : Nat)
    {phase : FetchPhase} (paused : Duration)
    (course : Course policy request world d w (.going phase))
    (enough : 2 * (1 + (world.counters.usage request.url).left policy.categories) <
      d.steps + fuel) :
    ∃ result time w' d', World.fetchFrom walk request fuel phase paused w =
      (some (result, time), w') ∧ Course policy request world d' w' (.ended result) := by
  induction fuel generalizing d w phase paused with
  | zero =>
    have hbounded := (course.standing reached).bounded
    omega
  | succ fuel ih =>
    have hcourse := course.step order
    rw [World.fetchFrom]
    rcases hstep : w.fetchStep walk request phase with ⟨step, w'⟩
    rw [hstep] at hcourse
    rcases step with ⟨phase', time⟩ | result
    · refine ih (paused.plus time) hcourse ?_
      simp only [Doings.andStep]
      omega
    · exact ⟨result, paused, w', _, rfl, hcourse⟩

end Course

namespace World

theorem attemptBudget_eq (walk : List (Category × CategoryConfig)) :
    attemptBudget walk = (walk.map fun c => c.2.maxRetries).sum := by
  have hfold : ∀ n, walk.foldl (fun n c => n + c.2.maxRetries) n =
      n + (walk.map fun c => c.2.maxRetries).sum := by
    induction walk with
    | nil => simp
    | cons c walk ih =>
      intro n
      rw [List.foldl_cons, ih, List.map_cons, List.sum_cons]
      omega
  rw [attemptBudget, hfold, Nat.zero_add]

/-- A fetch tries again just if a category that applies to the answer has attempts left, unless a
delay breaks off. -/
theorem fetchStep_retries_iff {policy : Policy} {walk : List (Category × CategoryConfig)}
    (order : walk.Perm policy.categories) (w : World σ) (request : Request) (answer : Arrival)
    (smooth : (w.fetchStep walk request (.arriving answer)).1.state.Smooth) :
    (w.fetchStep walk request (.arriving answer)).1.state = .going .asking ↔
      ∃ k ∈ policy.categories, (w.counters.usage request.url).count k.1 < k.2.maxRetries ∧
        k.2.applies answer.status answer.body = true := by
  simp only [fetchStep] at smooth ⊢
  rcases w.judge_outcome order request answer with
    ⟨k, hk, applies, hleft, -, ⟨hstate, -⟩ | ⟨crash, ofDelay, hstate⟩⟩ | ⟨hall, -, -, hend⟩
  · exact iff_of_true hstate ⟨k, hk, hleft, applies⟩
  · exact absurd ofDelay (smooth crash hstate)
  · have hnone : ¬∃ k ∈ policy.categories,
        (w.counters.usage request.url).count k.1 < k.2.maxRetries ∧
          k.2.applies answer.status answer.body = true := by
      rintro ⟨k, hk, hleft, applies⟩
      have hle := hall k hk applies
      omega
    refine iff_of_false (fun hstate => ?_) hnone
    rcases hend with hend | ⟨hend, -⟩
    · rw [hend] at hstate
      cases hstate
    · rw [hend] at hstate
      cases hstate

end World

/-- A fetch comes to an end against any site, walking the categories in whatever order. All along,
whatever else the world does that leaves its address alone, it makes at most one exchange and one
for every attempt that the categories had left, and no more than two steps for each. It tries again
just if a category that applies to the answer has attempts left, unless a delay breaks off. If it
returns a response, that is the answer of the last exchange, with the address that it came from and
the counters of the address asked for, which add up to the earlier total and a retry for each
exchange but the last. A fault ends it at once:
the counters stay and one failed request is added. -/
theorem fetch_ends_within_budget (policy : Policy) (request : Request) {world : World σ}
    (reached : world.counters.Reached) :
    let earlier := world.counters.usage request.url
    let budget := (policy.categories.map fun k => k.2.maxRetries - earlier.count k.1).sum
    (∀ walk : List (Category × CategoryConfig), walk.Perm policy.categories →
        ∃ result time w d, world.fetch walk request = (some (result, time), w) ∧
          Course policy request world d w (.ended result)) ∧
      ∀ d w state, Course policy request world d w state →
        d.outcomes.length ≤ 1 + budget ∧ d.steps ≤ 2 * (1 + budget) ∧
        (∀ answer, state = .going (.arriving answer) →
          ∀ walk : List (Category × CategoryConfig), walk.Perm policy.categories →
            (w.fetchStep walk request (.arriving answer)).1.state.Smooth →
              ((w.fetchStep walk request (.arriving answer)).1.state = .going .asking ↔
                ∃ k ∈ policy.categories,
                  (w.counters.usage request.url).count k.1 < k.2.maxRetries ∧
                    k.2.applies answer.status answer.body = true)) ∧
        (∀ r, state = .ended (.response r) →
          ∃ answer, d.outcomes.getLast? = some (.ok answer) ∧ r.status = answer.status ∧
            r.body = answer.body ∧ r.url = answer.url ∧
            r.retryHistory = (w.counters.usage request.url).counts ∧
            r.retryCount = (r.retryHistory.map Prod.snd).sum ∧
            r.retryCount = earlier.total + d.retries ∧ d.outcomes.length = d.retries + 1) ∧
        (∀ fault, state = .going .asking → w.site.reply w.asked request.url = .error fault →
          ∀ walk, (w.fetchStep walk request .asking).1.state = .ended (.failed fault) ∧
            (w.fetchStep walk request .asking).2.counters = w.counters) ∧
        (∀ fault, .error fault ∈ d.outcomes ↔ state = .ended (.failed fault)) ∧
        (∀ fault, state = .ended (.failed fault) →
          d.outcomes.getLast? = some (.error fault) ∧ d.outcomes.length = d.retries + 1 ∧
            (w.counters.usage request.url).total = earlier.total + d.retries ∧ d.failures = 1) ∧
        ∀ crash, state = .ended (.crashed crash) → crash.OfDelay ∨ crash = .addOverflow ∧
          ∃ answer, d.outcomes.getLast? = some (.ok answer) ∧
            wordBound ≤ w.desk.stats.bytesDownloaded + Text.utf8Length answer.body := by
  intro earlier budget
  constructor
  · intro walk order
    have hbudget : (world.counters.usage request.url).left policy.categories ≤
        World.attemptBudget walk := by
      rw [World.attemptBudget_eq, (order.map _).sum_eq]
      exact earlier.left_le policy.categories
    exact Course.fetchFrom_ends reached order _ .zero .start (by omega)
  · intro d w state course
    have standing := course.standing reached
    obtain ⟨hlength, hsteps⟩ := standing.bounded
    refine ⟨hlength, hsteps.trans (Nat.mul_le_mul_left 2 hlength),
      fun answer _ walk order => w.fetchStep_retries_iff order request answer, ?_, ?_,
      standing.fault_iff, ?_, ?_⟩
    · rintro r rfl
      obtain ⟨paced, -, answer, hlast, rfl⟩ := standing
      exact ⟨answer, hlast, rfl, rfl, rfl, rfl, paced.sound.total, paced.total, paced.exchanged⟩
    · intro fault _ hreply walk
      rw [World.fetchStep_asking, hreply]
      exact ⟨rfl, rfl⟩
    · rintro fault rfl
      obtain ⟨paced, hfailures, answered, -, houtcomes⟩ := standing
      refine ⟨?_, paced.exchanged, paced.total, hfailures⟩
      rw [houtcomes]
      exact List.getLast?_concat
    · rintro crash rfl
      obtain ⟨-, -, hcause⟩ := standing
      exact hcause

/-- The fault that a fetch failed with, if it did. -/
def FetchEnd.fault? : FetchEnd → Option Fault
  | .failed fault => some fault
  | _ => none

theorem FetchEnd.eq_failed_of_fault? {result : FetchEnd} {fault : Fault}
    (h : result.fault? = some fault) : result = .failed fault := by
  cases result with
  | response r => cases h
  | failed other => rw [Option.some.inj h]
  | crashed crash => cases h

/-- The world of a site that is out of service twice and then cannot be reached. -/
def sinkingWorld : World Unit where
  site := { reply := fun asked url =>
    if asked.length < 2 then .ok { status := 503, url } else .error (.exchange "unreachable") }
  counters := (({} : Counters).consider Fetches.weary.categories (samplePage "a") 503 "").2
  desk := { store := () }

/-- After one retry for its address a fetch makes two more, and then its third exchange fails. -/
theorem fetch_ends_within_budget_sample :
    let request : Request := { url := samplePage "a" }
    ∃ w d, Course Fetches.weary request sinkingWorld d w
        (.ended (.failed (.exchange "unreachable"))) ∧
      d.outcomes.length = 3 ∧ d.retries = 2 ∧ d.failures = 1 ∧
      (w.counters.usage (samplePage "a")).total = 3 := by
  intro request
  have reached : sinkingWorld.counters.Reached :=
    Counters.Reached.new.decision Fetches.weary.categories (samplePage "a") 503 ""
  have earlier : (sinkingWorld.counters.usage (samplePage "a")).total = 1 := by decide +kernel
  have computed : ((sinkingWorld.fetch Fetches.weary.categories request).1.bind fun ended =>
        ended.1.fault?) = some (.exchange "unreachable") ∧
      ((sinkingWorld.fetch Fetches.weary.categories request).2.counters.usage
        (samplePage "a")).total = 3 := by
    decide +kernel
  obtain ⟨ends, courses⟩ := fetch_ends_within_budget Fetches.weary request reached
  obtain ⟨result, time, w, d, hfetch, course⟩ := ends Fetches.weary.categories (List.Perm.refl _)
  rw [hfetch] at computed
  obtain ⟨hfault, htotal⟩ := computed
  obtain rfl := FetchEnd.eq_failed_of_fault? hfault
  obtain ⟨-, -, -, -, -, -, failed, -⟩ := courses d w _ course
  obtain ⟨-, hexchanges, hretries, hfailures⟩ := failed _ rfl
  have hretries : (w.counters.usage (samplePage "a")).total =
    (sinkingWorld.counters.usage (samplePage "a")).total + d.retries := hretries
  have htotal : (w.counters.usage (samplePage "a")).total = 3 := htotal
  exact ⟨w, d, course, by omega, by omega, hfailures, htotal⟩

end SiteSpiders

import SiteSpiders.Proofs.Crawl.Ending
import SiteSpiders.Proofs.Retry.History

/-!
# Fetches side by side

Fetches that share a world go on a step at a time, in any order, and every decision on an
answer walks the categories of the policy in an order of its own. If they are after one
address that always answers the same, then the exchanges made, the fetches about to ask
and what the policy still grants to the answer add up to the same at every step. So the
number of exchanges is fixed before the fetches begin.
-/
namespace SiteSpiders.Retry

/-- The categories that a response belongs to. -/
def Policy.matching (p : Policy) (status : Nat) (content : String) :
    List (Category × CategoryConfig) :=
  p.categories.filter fun k => k.2.applies status content

/-- Whether the delays can be computed that an address may still be given for a response, by the
attempts it has used. -/
def Policy.Timely (p : Policy) (u : Usage) (status : Nat) (content : String) : Prop :=
  ∀ k ∈ p.matching status content, ∀ attempt, u.count k.1 ≤ attempt → attempt < k.2.maxRetries →
    ∃ time, k.2.delay attempt = .ok time

instance (p : Policy) (u : Usage) (status : Nat) (content : String) :
    Decidable (p.Timely u status content) :=
  decidable_of_iff (∀ k ∈ p.matching status content, ∀ attempt < k.2.maxRetries,
      u.count k.1 ≤ attempt → (k.2.delay attempt).isOk = true)
    ⟨fun h k hk attempt used left =>
      match k.2.delay attempt, h k hk attempt left used with
      | .ok time, _ => ⟨time, rfl⟩,
    fun h k hk attempt left used =>
      let ⟨_, hdelay⟩ := h k hk attempt used left
      hdelay ▸ rfl⟩

theorem Usage.left_spend_of_not_mem {u : Usage} {walk : List (Category × CategoryConfig)}
    {category : Category} (h : category ∉ walk.map Prod.fst) :
    (u.spend category).left walk = u.left walk := by
  refine congrArg List.sum (List.map_congr_left fun k hk => ?_)
  have hne : k.1 ≠ category := fun he => h (List.mem_map.mpr ⟨k, hk, he⟩)
  rw [count_spend, if_neg hne]

/-- A category of a walk that has an attempt left takes one from the budget of the walk. -/
theorem Usage.left_spend_eq {u : Usage} {walk : List (Category × CategoryConfig)}
    (nodup : (walk.map Prod.fst).Nodup) {k : Category × CategoryConfig} (hk : k ∈ walk)
    (hleft : u.count k.1 < k.2.maxRetries) : (u.spend k.1).left walk + 1 = u.left walk := by
  induction walk with
  | nil => cases hk
  | cons head rest ih =>
    obtain ⟨hhead, hrest⟩ := List.nodup_cons.mp nodup
    have hcons : ∀ v : Usage, v.left (head :: rest) =
        (head.2.maxRetries - v.count head.1) + v.left rest := fun v => rfl
    rw [hcons, hcons]
    rcases List.mem_cons.mp hk with rfl | hmem
    · rw [Usage.left_spend_of_not_mem hhead, count_spend, if_pos rfl]
      omega
    · have hne : head.1 ≠ k.1 := fun he => hhead (he ▸ List.mem_map_of_mem hmem)
      have hrec := ih hrest hmem
      rw [count_spend, if_neg hne]
      omega

theorem Usage.left_eq_zero_iff {u : Usage} {walk : List (Category × CategoryConfig)} :
    u.left walk = 0 ↔ ∀ k ∈ walk, k.2.maxRetries ≤ u.count k.1 := by
  simp only [Usage.left, List.sum_eq_zero_iff, List.forall_mem_map, Nat.sub_eq_zero_iff_le]

/-- A decision on a response finds nothing left of the categories that the response belongs to, or
takes one attempt from what is left of them. -/
theorem consider_left_matching {policy : Policy} (distinct : policy.Distinct)
    {walk : List (Category × CategoryConfig)} (order : walk.Perm policy.categories) (c : Counters)
    (url : Url) (status : Nat) (content : String) :
    (c.consider walk url status content = (none, c) ∧
        c.left (policy.matching status content) url = 0) ∨
      ∃ k ∈ policy.matching status content, (c.usage url).count k.1 < k.2.maxRetries ∧
        (c.consider walk url status content).1 =
          some (k.1, k.2.delay ((c.usage url).count k.1)) ∧
        (c.consider walk url status content).2.usage url = (c.usage url).spend k.1 ∧
        (c.consider walk url status content).2.left (policy.matching status content) url + 1 =
          c.left (policy.matching status content) url := by
  rcases c.consider_cases walk url status content with
    ⟨heq, hall⟩ | ⟨k, hk, applies, hleft, heq⟩
  · refine Or.inl ⟨heq, Usage.left_eq_zero_iff.mpr fun k hk => ?_⟩
    obtain ⟨hmem, applies⟩ := List.mem_filter.mp hk
    exact hall k (order.mem_iff.mpr hmem) applies
  · have hmem : k ∈ policy.matching status content :=
      List.mem_filter.mpr ⟨order.mem_iff.mp hk, applies⟩
    have hnodup : ((policy.matching status content).map Prod.fst).Nodup :=
      List.Nodup.sublist (List.filter_sublist.map _) distinct
    have husage : (c.consider walk url status content).2.usage url = (c.usage url).spend k.1 := by
      rw [heq, Counters.usage_assign, if_pos rfl]
    refine Or.inr ⟨k, hmem, hleft, by rw [heq], husage, ?_⟩
    rw [Counters.left, husage]
    exact Usage.left_spend_eq hnodup hmem hleft

end SiteSpiders.Retry

namespace SiteSpiders

open Retry

variable {σ : Type}

/-- Recording a response breaks off only if the byte count cannot hold its size, and adds no more
than its size. -/
theorem recordRequest_bytes (k : Stats.Arithmetic Number.Floating) (s : Stats) (status size : Nat)
    (millis : Int) :
    (s.recordRequest k status size millis).2.bytesDownloaded ≤ s.bytesDownloaded + size ∧
      ∀ crash, (s.recordRequest k status size millis).1 = .error crash →
        crash = .addOverflow ∧ wordBound ≤ s.bytesDownloaded + size := by
  have hbytes : (s.countResponse status).bytesDownloaded = s.bytesDownloaded := rfl
  by_cases h : s.bytesDownloaded + size < wordBound
  · simp [Stats.Tally.recordRequest, addWord, hbytes, h]
  · simp only [Stats.Tally.recordRequest, addWord, hbytes, h, if_false]
    refine ⟨Nat.le_add_right _ _, fun crash hcrash => ?_⟩
    obtain rfl := Except.error.inj hcrash
    exact ⟨rfl, Nat.le_of_not_lt h⟩

namespace World

/-- What a judged answer changes is the counters, by the decision on it, and the statistics. A
retry pauses unless its delay breaks off; otherwise the answer is recorded and kept. -/
theorem judge_spec (w : World σ) (walk : List (Category × CategoryConfig)) (request : Request)
    (answer : Arrival) :
    ∃ stats, (w.judge walk request answer).2 =
        { w with
          counters := (w.counters.consider walk request.url answer.status answer.body).2
          desk := { w.desk with stats } } ∧
      ((∃ category crash,
          (w.counters.consider walk request.url answer.status answer.body).1 =
            some (category, .error crash) ∧
          (w.judge walk request answer).1 = .over (.crashed crash) ∧ stats = w.desk.stats) ∨
        (∃ category delay,
          (w.counters.consider walk request.url answer.status answer.body).1 =
            some (category, .ok delay) ∧
          (w.judge walk request answer).1 = .pause .asking delay ∧
          stats = w.desk.stats.recordRetry category.label) ∨
        ((w.counters.consider walk request.url answer.status answer.body).1 = none ∧
          stats = (w.desk.stats.recordRequest Stats.doubles answer.status
            (Text.utf8Length answer.body) 0).2 ∧
          ((∃ crash, (w.desk.stats.recordRequest Stats.doubles answer.status
                (Text.utf8Length answer.body) 0).1 = .error crash ∧
              (w.judge walk request answer).1 = .over (.crashed crash)) ∨
            (w.judge walk request answer).1 = .over (.response
              { url := answer.url, status := answer.status, body := answer.body
                retryCount := (w.counters.usage request.url).total
                retryHistory := (w.counters.usage request.url).counts, request })))) := by
  unfold judge
  rcases hconsider : w.counters.consider walk request.url answer.status answer.body with
    ⟨decision, counters⟩
  cases decision with
  | some verdict =>
    obtain ⟨category, delay⟩ := verdict
    cases delay with
    | error crash => exact ⟨_, rfl, Or.inl ⟨category, crash, rfl, rfl, rfl⟩⟩
    | ok delay => exact ⟨_, rfl, Or.inr (Or.inl ⟨category, delay, rfl, rfl, rfl⟩)⟩
  | none =>
    have hkept : counters = w.counters := by
      have h := w.counters.consider_none walk request.url answer.status answer.body
      rw [hconsider] at h
      exact h rfl
    subst hkept
    dsimp only [countResponse]
    rcases hrecord : w.desk.stats.recordRequest Stats.doubles answer.status
      (Text.utf8Length answer.body) 0 with ⟨result, stats⟩
    cases result with
    | error crash => exact ⟨stats, rfl, Or.inr (Or.inr ⟨rfl, rfl, Or.inl ⟨crash, rfl, rfl⟩⟩)⟩
    | ok _ => exact ⟨stats, rfl, Or.inr (Or.inr ⟨rfl, rfl, Or.inr rfl⟩)⟩

end World

inductive FetchState where
  | going (phase : FetchPhase)
  | ended (result : FetchEnd)

/-- Where a step leaves its fetch. -/
def FetchStep.state : FetchStep → FetchState
  | .pause phase _ => .going phase
  | .over result => .ended result

structure Fetches (σ : Type) where
  world : World σ
  fetches : List (Request × FetchState)

namespace Fetches

/-- Fetches that are about to begin. -/
def begin_ (world : World σ) (requests : List Request) : Fetches σ :=
  ⟨world, requests.map fun r => (r, .going .asking)⟩

/-- What fetches for some requests can come to in so many steps. Any fetch that is not over may go
on, and walks the categories of the policy in any order. -/
inductive Run (policy : Policy) (world : World σ) (requests : List Request) :
    Nat → Fetches σ → Prop
  | start : Run policy world requests 0 (begin_ world requests)
  | step {n : Nat} {f : Fetches σ} {before after : List (Request × FetchState)}
      {request : Request} {phase : FetchPhase} {walk : List (Category × CategoryConfig)}
      (run : Run policy world requests n f)
      (at_ : f.fetches = before ++ (request, .going phase) :: after)
      (order : walk.Perm policy.categories) :
      Run policy world requests (n + 1)
        ⟨(f.world.fetchStep walk request phase).2,
          before ++ (request, (f.world.fetchStep walk request phase).1.state) :: after⟩

def Over (f : Fetches σ) : Prop := ∀ x ∈ f.fetches, ∃ result, x.2 = .ended result

end Fetches

/-- Whether a site always answers an address with a status and a body, if not after the same time
or from the same address. -/
def Site.Repeats (site : Site) (url : Url) (status : Nat) (body : String) : Prop :=
  ∀ earlier, ∃ answer, site.reply earlier url = .ok answer ∧ answer.status = status ∧
    answer.body = body

namespace FetchState

/-- One for a fetch about to ask. -/
def asks : FetchState → Nat
  | .going .asking => 1
  | _ => 0

/-- One for a fetch whose answer is on its way. -/
def hears : FetchState → Nat
  | .going (.arriving _) => 1
  | _ => 0

/-- The bytes that a fetch may still add to the byte count, if its page has so many. -/
def loads (size : Nat) : FetchState → Nat
  | .going _ => size
  | .ended _ => 0

end FetchState

namespace Fetches

/-- How a fetch can stand whose address answers with a status and a body, when so much is left of
the categories of the answer and the byte count comes to so much at most. -/
def Stands (status : Nat) (body : String) (left bytes : Nat) : FetchState → Prop
  | .going .asking => True
  | .going (.arriving answer) => answer.status = status ∧ answer.body = body
  | .ended result => left = 0 ∧
      ((∃ r, result = .response r ∧ r.status = status ∧ r.body = body) ∨
        result = .crashed .addOverflow ∧ wordBound ≤ bytes)

theorem Stands.mono {status : Nat} {body : String} {left left' bytes : Nat} (hle : left' ≤ left)
    {state : FetchState} (h : Stands status body left bytes state) :
    Stands status body left' bytes state := by
  cases state with
  | going phase => cases phase <;> exact h
  | ended result => exact ⟨Nat.le_zero.mp (h.1 ▸ hle), h.2⟩

/-- What a step of one fetch does to the account of its address. Each exchange takes two steps, one
to ask and one to hear, and an attempt is used for each fetch that is to ask anew. -/
structure Turn (policy : Policy) (url : Url) (status : Nat) (body : String) (w w' : World σ)
    (old new : FetchState) : Prop where
  site : w'.site = w.site
  counts : ∀ category, (w.counters.usage url).count category ≤
    (w'.counters.usage url).count category
  exchanges : ∃ made, w'.asked = List.replicate made url ++ w.asked ∧
    made + new.asks + w'.counters.left (policy.matching status body) url =
      old.asks + w.counters.left (policy.matching status body) url ∧
    1 + new.hears = old.hears + 2 * made
  left : w'.counters.left (policy.matching status body) url ≤
    w.counters.left (policy.matching status body) url
  bytes : w'.desk.stats.bytesDownloaded + new.loads (Text.utf8Length body) ≤
    w.desk.stats.bytesDownloaded + old.loads (Text.utf8Length body)

variable {policy : Policy} {url : Url} {status : Nat} {body : String}

/-- A fetch that asks makes an exchange. -/
theorem turn_asking (policy : Policy) {w : World σ} (repeats : w.site.Repeats url status body)
    {request : Request} (same : request.url = url) (walk : List (Category × CategoryConfig))
    (bytes : Nat) :
    Turn policy url status body w (w.fetchStep walk request .asking).2 (.going .asking)
        (w.fetchStep walk request .asking).1.state ∧
      Stands status body
        ((w.fetchStep walk request .asking).2.counters.left (policy.matching status body) url) bytes
        (w.fetchStep walk request .asking).1.state := by
  subst same
  obtain ⟨answer, hreply, hstatus, hbody⟩ := repeats w.asked
  simp only [World.fetchStep_asking, hreply, FetchStep.state]
  refine ⟨⟨rfl, fun _ => Nat.le_refl _, ⟨1, rfl, ?_, rfl⟩, Nat.le_refl _, Nat.le_refl _⟩,
    hstatus, hbody⟩
  simp only [FetchState.asks, Nat.add_zero]

/-- A fetch whose answer arrives asks anew as long as something is left of the categories of the
answer, and is over otherwise. -/
theorem turn_arriving (distinct : policy.Distinct) {w : World σ} {request : Request}
    (timely : policy.Timely (w.counters.usage url) status body) (same : request.url = url)
    {answer : Arrival} (hstatus : answer.status = status) (hbody : answer.body = body)
    {walk : List (Category × CategoryConfig)} (order : walk.Perm policy.categories) (bytes : Nat)
    (room : w.desk.stats.bytesDownloaded + Text.utf8Length body ≤ bytes) :
    Turn policy url status body w (w.fetchStep walk request (.arriving answer)).2
        (.going (.arriving answer)) (w.fetchStep walk request (.arriving answer)).1.state ∧
      Stands status body ((w.fetchStep walk request (.arriving answer)).2.counters.left
        (policy.matching status body) url) bytes
        (w.fetchStep walk request (.arriving answer)).1.state := by
  subst same hstatus hbody
  obtain ⟨stats, hworld, hstep⟩ := w.judge_spec walk request answer
  simp only [World.fetchStep, hworld]
  rcases consider_left_matching distinct order w.counters request.url answer.status answer.body
    with ⟨hnone, hzero⟩ | ⟨k, hk, hleft, hsome, husage, hspent⟩
  · -- nothing is left, so the answer is recorded and kept
    rw [hnone] at hstep ⊢
    obtain ⟨hadded, hcrash⟩ := recordRequest_bytes Stats.doubles w.desk.stats answer.status
      (Text.utf8Length answer.body) 0
    rcases hstep with ⟨_, _, hretry, _⟩ | ⟨_, _, hretry, _⟩ | ⟨_, rfl, hend⟩
    · cases hretry
    · cases hretry
    have hturn : ∀ result, Turn policy request.url answer.status answer.body w
        { w with desk := { w.desk with stats := (w.desk.stats.recordRequest Stats.doubles
          answer.status (Text.utf8Length answer.body) 0).2 } }
        (.going (.arriving answer)) (.ended result) := fun result =>
      ⟨rfl, fun _ => Nat.le_refl _, ⟨0, rfl, rfl, rfl⟩, Nat.le_refl _, hadded⟩
    rcases hend with ⟨crash, hrecord, hend⟩ | hend
    · obtain ⟨rfl, hfull⟩ := hcrash crash hrecord
      rw [hend]
      exact ⟨hturn _, hzero, Or.inr ⟨rfl, Nat.le_trans hfull room⟩⟩
    · rw [hend]
      exact ⟨hturn _, hzero, Or.inl ⟨_, rfl, rfl, rfl⟩⟩
  · -- an attempt is taken from what is left
    obtain ⟨delay, hdelay⟩ := timely k hk _ (Nat.le_refl _) hleft
    rw [hsome, hdelay] at hstep
    rcases hstep with ⟨_, _, hcrash, _⟩ | ⟨category, _, _, hpause, rfl⟩ | ⟨hkept, _⟩
    · cases hcrash
    · rw [hpause]
      refine ⟨⟨rfl, ?_, ⟨0, rfl, ?_, rfl⟩, ?_, Nat.le_refl _⟩, trivial⟩
      · intro c
        rw [husage, count_spend]
        split_ifs with hkey
        · rw [hkey]
          exact Nat.le_succ _
        · exact Nat.le_refl _
      · simp only [FetchStep.state, FetchState.asks]
        omega
      · exact Nat.le_of_succ_le (Nat.le_of_eq hspent)
    · cases hkept

/-- The account of fetches for an address after so many steps: exchanges made, fetches about to
ask and attempts left add up to what they were at the beginning. -/
structure Accounted (policy : Policy) (world : World σ) (requests : List Request) (url : Url)
    (status : Nat) (body : String) (n : Nat) (f : Fetches σ) : Prop where
  site : f.world.site = world.site
  requested : f.fetches.map Prod.fst = requests
  counts : ∀ category, (world.counters.usage url).count category ≤
    (f.world.counters.usage url).count category
  exchanges : ∃ made, f.world.asked = List.replicate made url ++ world.asked ∧
    made + (f.fetches.map fun x => x.2.asks).sum +
        f.world.counters.left (policy.matching status body) url =
      requests.length + world.counters.left (policy.matching status body) url ∧
    n + (f.fetches.map fun x => x.2.hears).sum = 2 * made
  bytes : f.world.desk.stats.bytesDownloaded +
      (f.fetches.map fun x => x.2.loads (Text.utf8Length body)).sum ≤
    world.desk.stats.bytesDownloaded + requests.length * Text.utf8Length body
  stands : ∀ x ∈ f.fetches, Stands status body
    (f.world.counters.left (policy.matching status body) url)
    (world.desk.stats.bytesDownloaded + requests.length * Text.utf8Length body) x.2

variable {world : World σ} {requests : List Request} {n : Nat} {f : Fetches σ}

theorem accounted_begin (policy : Policy) (world : World σ) (requests : List Request) (url : Url)
    (status : Nat) (body : String) :
    (begin_ world requests).Accounted policy world requests url status body 0 where
  site := rfl
  requested := by simp [begin_, Function.comp_def]
  counts _ := Nat.le_refl _
  exchanges := ⟨0, rfl, by simp [begin_, FetchState.asks, Function.comp_def],
    by simp [begin_, FetchState.hears, Function.comp_def]⟩
  bytes := by simp [begin_, FetchState.loads, Function.comp_def]
  stands x hx := by
    obtain ⟨r, _, rfl⟩ := List.mem_map.mp hx
    trivial

/-- The turn of one fetch keeps the account of all. -/
theorem Accounted.turn (h : f.Accounted policy world requests url status body n)
    {before after : List (Request × FetchState)} {request : Request} {old new : FetchState}
    (at_ : f.fetches = before ++ (request, old) :: after) {w : World σ}
    (turn : Turn policy url status body f.world w old new)
    (stands : Stands status body (w.counters.left (policy.matching status body) url)
      (world.desk.stats.bytesDownloaded + requests.length * Text.utf8Length body) new) :
    Accounted policy world requests url status body (n + 1)
      ⟨w, before ++ (request, new) :: after⟩ := by
  obtain ⟨made, hasked, hsum, hsteps⟩ := h.exchanges
  obtain ⟨more, hmore, hsum', hsteps'⟩ := turn.exchanges
  have hrequests := h.requested
  have hbytes := h.bytes
  have hstands := h.stands
  rw [at_] at hrequests hsum hsteps hbytes hstands
  simp only [List.map_append, List.map_cons, List.sum_append, List.sum_cons] at hsum hsteps hbytes
  refine ⟨turn.site.trans h.site, by simpa using hrequests,
    fun category => Nat.le_trans (h.counts category) (turn.counts category),
    ⟨more + made, ?_, ?_, ?_⟩, ?_, ?_⟩
  · rw [hmore, hasked, List.replicate_add, List.append_assoc]
  · simp only [List.map_append, List.map_cons, List.sum_append, List.sum_cons]
    omega
  · simp only [List.map_append, List.map_cons, List.sum_append, List.sum_cons]
    omega
  · have hturn := turn.bytes
    simp only [List.map_append, List.map_cons, List.sum_append, List.sum_cons]
    omega
  · intro x hx
    simp only [List.mem_append, List.mem_cons] at hx
    rcases hx with hx | rfl | hx
    · exact (hstands x (by simp [hx])).mono turn.left
    · exact stands
    · exact (hstands x (by simp [hx])).mono turn.left

/-- The account holds at every step. -/
theorem Run.accounted (distinct : policy.Distinct)
    (repeats : world.site.Repeats url status body)
    (timely : policy.Timely (world.counters.usage url) status body)
    (same : ∀ r ∈ requests, r.url = url) (run : Run policy world requests n f) :
    f.Accounted policy world requests url status body n := by
  induction run with
  | start => exact accounted_begin policy world requests url status body
  | @step n f before after request phase walk _ at_ order ih =>
    have hmem : request ∈ requests := by
      rw [← ih.requested, at_]
      simp
    cases phase with
    | asking =>
      obtain ⟨turn, stands⟩ := turn_asking policy (ih.site.symm ▸ repeats)
        (same request hmem) walk _
      exact ih.turn at_ turn stands
    | arriving answer =>
      have hbytes := ih.bytes
      rw [at_, List.map_append, List.map_cons, List.sum_append, List.sum_cons] at hbytes
      simp only [FetchState.loads] at hbytes
      obtain ⟨hstatus, hbody⟩ := ih.stands (request, .going (.arriving answer)) (by simp [at_])
      have timely' : policy.Timely (f.world.counters.usage url) status body :=
        fun k hk attempt hle => timely k hk attempt (Nat.le_trans (ih.counts k.1) hle)
      obtain ⟨turn, stands⟩ := turn_arriving distinct timely' (same request hmem) hstatus hbody
        order (world.desk.stats.bytesDownloaded + requests.length * Text.utf8Length body) (by omega)
      exact ih.turn at_ turn stands

theorem Run.goes_on (run : Run policy world requests n f) (busy : ¬f.Over) :
    ∃ f', Run policy world requests (n + 1) f' := by
  simp only [Over, not_forall] at busy
  obtain ⟨⟨request, state⟩, hmem, hgoing⟩ := busy
  cases state with
  | ended result => exact absurd ⟨result, rfl⟩ hgoing
  | going phase =>
    obtain ⟨before, after, at_⟩ := List.append_of_mem hmem
    exact ⟨_, run.step at_ (List.Perm.refl _)⟩

theorem exists_over {bound : Nat} (bounded : ∀ n f, Run policy world requests n f → n ≤ bound) :
    ∃ n f, Run policy world requests n f ∧ f.Over := by
  by_contra none
  have far : ∀ n, ∃ f, Run policy world requests n f := by
    intro n
    induction n with
    | zero => exact ⟨_, .start⟩
    | succ n ih =>
      obtain ⟨f, run⟩ := ih
      exact run.goes_on fun finished => none ⟨n, f, run, finished⟩
  obtain ⟨f, run⟩ := far (bound + 1)
  have hle := bounded _ f run
  omega

/-- Fetches that are over have used up what was left, and none is about to ask. -/
theorem Accounted.exchanges_of_over (h : f.Accounted policy world requests url status body n)
    (some_ : requests ≠ []) (finished : f.Over) :
    f.world.asked = List.replicate (requests.length +
      world.counters.left (policy.matching status body) url) url ++ world.asked := by
  obtain ⟨made, hasked, hsum, _⟩ := h.exchanges
  have hquiet : (f.fetches.map fun x => x.2.asks).sum = 0 := by
    rw [List.sum_eq_zero_iff, List.forall_mem_map]
    intro x hx
    obtain ⟨result, hresult⟩ := finished x hx
    rw [hresult]
    rfl
  have hspent : f.world.counters.left (policy.matching status body) url = 0 := by
    have hne : f.fetches ≠ [] := by
      intro hnil
      have hnone := h.requested
      rw [hnil] at hnone
      exact some_ hnone.symm
    obtain ⟨x, hx⟩ := List.exists_mem_of_ne_nil f.fetches hne
    obtain ⟨result, hresult⟩ := finished x hx
    have hstands := h.stands x hx
    rw [hresult] at hstands
    exact hstands.1
  rw [hasked]
  congr 2
  omega

/-- Fetches side by side for an address that always answers the same, with delays that can be
computed, all come to an end in whatever order they go on and the categories are walked. As long as
one is not over it can go on, and the steps are bounded. Altogether they make one exchange each and
one for every attempt that the categories of the answer had left. Each ends with the answer, unless
the byte count overflows. -/
theorem fetches_exchange_budget (distinct : policy.Distinct)
    (repeats : world.site.Repeats url status body)
    (timely : policy.Timely (world.counters.usage url) status body) (some_ : requests ≠ [])
    (same : ∀ r ∈ requests, r.url = url) :
    let exchanges := requests.length +
      ((policy.categories.filter fun k => k.2.applies status body).map fun k =>
        k.2.maxRetries - (world.counters.usage url).count k.1).sum
    (∃ n f, Run policy world requests n f ∧ f.Over) ∧
      ∀ n f, Run policy world requests n f →
        n ≤ 2 * exchanges ∧ (¬f.Over → ∃ f', Run policy world requests (n + 1) f') ∧
        (f.Over → f.world.asked = List.replicate exchanges url ++ world.asked ∧
          f.fetches.map Prod.fst = requests ∧
          ∀ x ∈ f.fetches, (∃ r, x.2 = .ended (.response r) ∧ r.status = status ∧ r.body = body) ∨
            x.2 = .ended (.crashed .addOverflow) ∧ wordBound ≤
              world.desk.stats.bytesDownloaded + requests.length * Text.utf8Length body) := by
  intro exchanges
  have accounted : ∀ n f, Run policy world requests n f →
      f.Accounted policy world requests url status body n :=
    fun n f run => run.accounted distinct repeats timely same
  have bounded : ∀ n f, Run policy world requests n f → n ≤ 2 * exchanges := by
    intro n f run
    obtain ⟨made, _, hsum, hsteps⟩ := (accounted n f run).exchanges
    have hexchanges : exchanges = requests.length +
      world.counters.left (policy.matching status body) url := rfl
    omega
  refine ⟨exists_over bounded, fun n f run => ⟨bounded n f run, run.goes_on, fun finished => ?_⟩⟩
  have account := accounted n f run
  refine ⟨account.exchanges_of_over some_ finished, account.requested, fun x hx => ?_⟩
  obtain ⟨result, hresult⟩ := finished x hx
  have hstands := account.stands x hx
  rw [hresult] at hstands ⊢
  refine hstands.2.imp ?_ ?_
  · rintro ⟨r, rfl, hr⟩
    exact ⟨r, rfl, hr⟩
  · rintro ⟨rfl, hfull⟩
    exact ⟨rfl, hfull⟩

/-- A policy with two categories for an address that is out of service. -/
def weary : Policy :=
  (({} : Policy).insert .serverError politeServerError).insert (.custom "weary")
    { maxRetries := 2, backoff := .constant, conditions := [.status 503] }

/-- A world whose site is out of service, after one retry. -/
def wearyWorld : World Unit where
  site := { reply := fun _ url => .ok { status := 503, url } }
  counters := { usages := [((samplePage "a").text, { counts := [(.serverError, 1)], total := 1 })] }
  desk := { store := () }

/-- Two fetches exchange six times: once each, and as often as the two categories have attempts
left, which is twice each. -/
theorem fetches_exchange_budget_sample :
    let requests : List Request :=
      [{ url := samplePage "a" }, { url := samplePage "a", depth := 1 }]
    ∃ n f, Run weary wearyWorld requests n f ∧ f.Over ∧
      f.world.asked = List.replicate 6 (samplePage "a") ∧
      ∀ x ∈ f.fetches, ∃ r, x.2 = .ended (.response r) ∧ r.status = 503 := by
  intro requests
  have distinct : weary.Distinct := (Policy.distinct_empty.insert _ _).insert _ _
  have repeats : wearyWorld.site.Repeats (samplePage "a") 503 "" := fun _ => ⟨_, rfl, rfl, rfl⟩
  have timely : weary.Timely (wearyWorld.counters.usage (samplePage "a")) 503 "" := by
    decide +kernel
  have same : ∀ r ∈ requests, r.url = samplePage "a" := by
    intro r hr
    rcases List.mem_pair.mp hr with rfl | rfl <;> rfl
  have budget : ((weary.categories.filter fun k => k.2.applies 503 "").map fun k =>
      k.2.maxRetries - (wearyWorld.counters.usage (samplePage "a")).count k.1).sum = 4 := by
    decide +kernel
  obtain ⟨⟨n, f, run, finished⟩, runs⟩ := fetches_exchange_budget distinct repeats timely
    (List.cons_ne_nil _ _) same
  obtain ⟨_, _, ended⟩ := runs n f run
  obtain ⟨hasked, _, hends⟩ := ended finished
  rw [budget] at hasked
  refine ⟨n, f, run, finished, hasked.trans (List.append_nil _), fun x hx => ?_⟩
  rcases hends x hx with ⟨r, hr, hstatus, _⟩ | ⟨_, hfull⟩
  · exact ⟨r, hr, hstatus⟩
  · exact absurd hfull (by decide +kernel)

end Fetches

end SiteSpiders

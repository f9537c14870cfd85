import Mathlib.Data.String.Basic
import SiteSpiders.Proofs.Crawl.Fetches
import SiteSpiders.Proofs.Retry.Labels

/-!
# The statistics of fetches

Fetches that share statistics and retry counters post to them at different points of their
loops, in any order. What a step posts is said once; every law of the statistics is then an
equation that each posting keeps, up to what the fetches under way have still to post. Once
all have ended the statistics account for every fetch, every exchange, every byte and every
retry.
-/
namespace SiteSpiders.Text

theorem length_utf8Bytes (c : Char) : (utf8Bytes c).length = c.utf8Size := by
  have hval : c.toNat = c.val.toNat := rfl
  simp only [utf8Bytes, Char.utf8Size, hval, UInt32.le_iff_toNat_le, UInt32.toNat_ofNatLT]
  split_ifs
  all_goals simp only [List.length_cons, List.length_nil]
  all_goals omega

theorem utf8Length_eq (s : String) : utf8Length s = s.utf8ByteSize := by
  have hfold : ∀ (cs : List Char) (n : Nat),
      cs.foldl (fun n c => n + (utf8Bytes c).length) n = n + String.utf8Len cs := by
    intro cs
    induction cs with
    | nil => simp
    | cons c cs ih =>
      intro n
      rw [List.foldl_cons, ih, String.utf8Len_cons, length_utf8Bytes]
      omega
  rw [utf8Length, hfold, Nat.zero_add, ← String.utf8ByteSize_ofList, String.ofList_toList]

end SiteSpiders.Text

namespace SiteSpiders.Stats

variable {κ : Type} [DecidableEq κ]

/-- The sum of the counts of some keys. -/
def sumOf (keep : κ → Bool) (counts : List (κ × Nat)) : Nat :=
  ((counts.filter fun c => keep c.1).map Prod.snd).sum

theorem bump_cons (key k : κ) (v : Nat) (rest : List (κ × Nat)) :
    bump key ((k, v) :: rest) =
      if k = key then (key, v + 1) :: rest else (k, v) :: bump key rest := by
  by_cases h : k = key
  · simp [bump, Retry.assign, h]
  · have hne : (key == k) = false := beq_false_of_ne fun he => h he.symm
    simp [bump, Retry.assign, h, List.lookup_cons, hne]

/-- One more for a key is one more in the sum, if the key belongs to it. -/
theorem sumOf_bump (keep : κ → Bool) (key : κ) (counts : List (κ × Nat)) :
    sumOf keep (bump key counts) = sumOf keep counts + if keep key then 1 else 0 := by
  induction counts with
  | nil => by_cases h : keep key <;> simp [sumOf, bump, Retry.assign, h]
  | cons head rest ih =>
    obtain ⟨k, v⟩ := head
    rw [bump_cons]
    by_cases hkey : k = key
    · subst hkey
      by_cases h : keep k
      · simp only [sumOf, if_true, List.filter_cons, h, List.map_cons, List.sum_cons]
        omega
      · simp [sumOf, h]
    · rw [if_neg hkey]
      by_cases h : keep k
      · simp only [sumOf, List.filter_cons, h, if_true, List.map_cons, List.sum_cons] at ih ⊢
        omega
      · simpa [sumOf, h] using ih

theorem lookup_bump (key k : κ) (counts : List (κ × Nat)) :
    ((bump key counts).lookup k).getD 0 =
      (counts.lookup k).getD 0 + if k = key then 1 else 0 := by
  by_cases h : k = key <;> simp [bump, h]

end SiteSpiders.Stats

namespace SiteSpiders

open Retry

variable {σ : Type}

/-- Whether a crash is that of a delay which cannot be computed. -/
def Crash.OfDelay (crash : Crash) : Prop := crash = .negativeDelay ∨ crash = .unboundedDelay

/-- Computing a delay breaks off in no other way. -/
theorem delay_error {config : CategoryConfig} {attempt : Nat} {crash : Crash}
    (h : config.delay attempt = .error crash) : crash.OfDelay := by
  have times_error : ∀ (d : Duration) (x : Number.Floating),
      d.times x = .error crash → crash.OfDelay := by
    intro d x hx
    unfold Duration.times at hx
    generalize Number.double.mul d.toFloating x = product at hx
    cases product with
    | nan => exact Or.inr (Except.error.inj hx).symm
    | infinite negative =>
      cases negative with
      | true => exact Or.inl (Except.error.inj hx).symm
      | false => exact Or.inr (Except.error.inj hx).symm
    | finite negative m e =>
      simp only [Duration.ofFloating] at hx
      split_ifs at hx
      · exact Or.inl (Except.error.inj hx).symm
      · exact Or.inr (Except.error.inj hx).symm
  unfold CategoryConfig.delay at h
  split_ifs at h
  have hraw : config.rawDelay attempt = .error crash := by
    cases hraw : config.rawDelay attempt with
    | ok time => rw [hraw] at h; cases h
    | error other => rw [hraw] at h; exact h
  unfold CategoryConfig.rawDelay at hraw
  split at hraw
  · cases hraw
  · exact times_error _ _ hraw
  · exact times_error _ _ hraw

namespace FetchState

/-- Whether a fetch did not break off at a delay. -/
def Smooth (state : FetchState) : Prop :=
  ∀ crash, state = .ended (.crashed crash) → ¬crash.OfDelay

/-- One for a fetch that has ended. -/
def endings : FetchState → Nat
  | .ended _ => 1
  | .going _ => 0

/-- One for a fetch whose exchange failed. -/
def failures : FetchState → Nat
  | .ended (.failed _) => 1
  | _ => 0

/-- The bytes of the body that a fetch returned. -/
def bytes : FetchState → Nat
  | .ended (.response r) => r.body.utf8ByteSize
  | _ => 0

end FetchState

/-- What a step of a fetch posts to the world, and where it leaves the fetch. A response whose size
the byte count cannot hold is counted, but neither returned nor added. -/
inductive Posting (w : World σ) (request : Request) : FetchPhase → World σ → FetchState → Prop
  | refused (fault : Fault) : Posting w request .asking
      (({ w with asked := request.url :: w.asked } : World σ).note fun s => s.recordFailure)
      (.ended (.failed fault))
  | answered (answer : Arrival) : Posting w request .asking
      { w with asked := request.url :: w.asked, fetched := request.url :: w.fetched }
      (.going (.arriving answer))
  | retried (answer : Arrival) (category : Category) : Posting w request (.arriving answer)
      { w with
        counters := ⟨assign request.url.text ((w.counters.usage request.url).spend category)
          w.counters.usages⟩
        desk := w.desk.note fun s => s.recordRetry category.label } (.going .asking)
  | overflowed (answer : Arrival) : Posting w request (.arriving answer)
      (w.note fun s => s.countResponse answer.status) (.ended (.crashed .addOverflow))
  | kept (answer : Arrival) (average : Number.Floating) {r : Response}
      (body : r.body = answer.body) : Posting w request (.arriving answer)
      (w.note fun s => { s.countResponse answer.status with
        bytesDownloaded := s.bytesDownloaded + answer.body.utf8ByteSize, average })
      (.ended (.response r))

/-- Every step is a posting, unless a delay breaks off. -/
theorem posting_fetchStep (w : World σ) (walk : List (Category × CategoryConfig))
    (request : Request) (phase : FetchPhase)
    (smooth : (w.fetchStep walk request phase).1.state.Smooth) :
    Posting w request phase (w.fetchStep walk request phase).2
      (w.fetchStep walk request phase).1.state := by
  cases phase with
  | asking =>
    rw [World.fetchStep_asking]
    cases w.site.reply w.asked request.url with
    | error fault => exact .refused fault
    | ok answer => exact .answered answer
  | arriving answer =>
    simp only [World.fetchStep] at smooth ⊢
    rcases w.counters.consider_cases walk request.url answer.status answer.body with
      ⟨hnone, _⟩ | ⟨k, _, _, _, hsome⟩
    · -- the answer is kept: it is counted, and its size added if there is room
      simp only [World.judge, hnone, World.countResponse, Stats.Tally.recordRequest, addWord,
        Text.utf8Length_eq]
      by_cases fits : (w.desk.stats.countResponse answer.status).bytesDownloaded +
          answer.body.utf8ByteSize < wordBound
      · simp only [fits, if_true]
        exact .kept answer _ rfl
      · simp only [fits, if_false]
        exact .overflowed answer
    · simp only [World.judge, hsome] at smooth ⊢
      cases hdelay : k.2.delay ((w.counters.usage request.url).count k.1) with
      | error crash =>
        rw [hdelay] at smooth
        exact absurd (delay_error hdelay) (smooth crash rfl)
      | ok delay => exact .retried answer k.1

namespace Fetches

variable {policy : Policy} {world : World σ} {requests : List Request} {n : Nat} {f : Fetches σ}

/-- Whether no fetch broke off at a delay. -/
def Smooth (f : Fetches σ) : Prop := ∀ x ∈ f.fetches, x.2.Smooth

theorem Run.requested (run : Run policy world requests n f) :
    f.fetches.map Prod.fst = requests := by
  induction run with
  | start => simp [begin_, Function.comp_def]
  | step _ at_ _ ih => simpa [at_] using ih

/-- What holds at first and is kept by every posting holds all along, as long as no fetch breaks off
at a delay. -/
theorem Run.of_postings {P : Fetches σ → Prop} (new : P (begin_ world requests))
    (post : ∀ {f : Fetches σ} {before after request phase w' state},
      f.fetches = before ++ (request, .going phase) :: after → request ∈ requests →
      Posting f.world request phase w' state → P f → P ⟨w', before ++ (request, state) :: after⟩)
    (run : Run policy world requests n f) (smooth : f.Smooth) : P f := by
  induction run with
  | start => exact new
  | @step n f before after request phase walk run at_ order ih =>
    have hmem : request ∈ requests := by
      rw [← run.requested, at_]
      simp
    have hsmooth : f.Smooth := by
      -- the fetch that goes on has not broken off, and the others stay
      intro x hx
      rw [at_, List.mem_append, List.mem_cons] at hx
      rcases hx with hx | rfl | hx
      · exact smooth x (by simp [hx])
      · exact fun _ hcrash => by cases hcrash
      · exact smooth x (by simp [hx])
    exact post at_ hmem (posting_fetchStep f.world walk request phase
      (smooth (request, (f.world.fetchStep walk request phase).1.state) (by simp))) (ih hsmooth)

/-- What two sides of an account differ by is shared among the fetches, if every posting says so and
the account begins balanced. -/
theorem Run.conserves (gain loss : World σ → Nat) (share : FetchState → Nat)
    (new : share (.going .asking) = 0) (start : gain world = loss world)
    (post : ∀ {w w' : World σ} {request phase state}, request ∈ requests →
      Posting w request phase w' state →
      gain w' + loss w + share (.going phase) = gain w + loss w' + share state)
    (run : Run policy world requests n f) (smooth : f.Smooth) :
    gain f.world = loss f.world + (f.fetches.map fun x => share x.2).sum := by
  refine run.of_postings (P := fun f => gain f.world = loss f.world +
    (f.fetches.map fun x => share x.2).sum) ?_ ?_ smooth
  · simp [begin_, Function.comp_def, new, start]
  · intro f before after request phase w' state at_ hmem posting hbalance
    have hpost := post hmem posting
    simp only [at_, List.map_append, List.map_cons, List.sum_append, List.sum_cons] at hbalance ⊢
    omega

theorem Run.total_eq (run : Run policy world requests n f) (smooth : f.Smooth)
    (fresh : world.desk.stats = Stats.empty) :
    f.world.desk.stats.totalRequests = (f.fetches.map fun x => x.2.endings).sum := by
  have h := run.conserves (fun w => w.desk.stats.totalRequests) (fun _ => 0) FetchState.endings rfl
    (by simp only [fresh]; rfl) (fun _ posting => ?_) smooth
  · simpa using h
  · cases posting <;> rfl

/-- A request succeeded or failed. -/
theorem Run.total_split (run : Run policy world requests n f) (smooth : f.Smooth)
    (fresh : world.desk.stats = Stats.empty) :
    f.world.desk.stats.totalRequests =
      f.world.desk.stats.successfulRequests + f.world.desk.stats.failedRequests := by
  have h := run.conserves (fun w => w.desk.stats.totalRequests)
    (fun w => w.desk.stats.successfulRequests + w.desk.stats.failedRequests) (fun _ => 0) rfl
    (by simp only [fresh]; rfl) (fun _ posting => ?_) smooth
  · simpa using h
  · cases posting with
    | refused fault => simp only [World.note, Desk.note, Stats.Tally.recordFailure]; omega
    | answered answer => rfl
    | retried answer category => rfl
    | overflowed answer =>
      simp only [World.note, Desk.note, Stats.Tally.countResponse]
      split_ifs <;> omega
    | kept answer average body =>
      simp only [World.note, Desk.note, Stats.Tally.countResponse]
      split_ifs <;> omega

/-- Every exchange is one of a request that was counted, of a retry, or of an answer on its way. -/
theorem Run.exchanges_eq (run : Run policy world requests n f) (smooth : f.Smooth)
    (fresh : world.desk.stats = Stats.empty) :
    f.world.asked.length = world.asked.length + f.world.desk.stats.totalRequests +
      f.world.desk.stats.retryCount + (f.fetches.map fun x => x.2.hears).sum := by
  refine run.conserves (fun w => w.asked.length) (fun w => world.asked.length +
    w.desk.stats.totalRequests + w.desk.stats.retryCount) FetchState.hears rfl
    (by simp only [fresh]; rfl) (fun _ posting => ?_) smooth
  cases posting <;> simp only [World.note, Desk.note, Stats.Tally.recordFailure,
    Stats.Tally.recordRetry, Stats.Tally.countResponse, FetchState.hears, List.length_cons] <;>
    omega

/-- Every request has its status counted, unless its exchange failed. -/
theorem Run.codes_eq (run : Run policy world requests n f) (smooth : f.Smooth)
    (fresh : world.desk.stats = Stats.empty) :
    f.world.desk.stats.totalRequests = Stats.sumOf (fun _ => true) f.world.desk.stats.statusCodes +
      (f.fetches.map fun x => x.2.failures).sum := by
  refine run.conserves (fun w => w.desk.stats.totalRequests)
    (fun w => Stats.sumOf (fun _ => true) w.desk.stats.statusCodes) FetchState.failures rfl
    (by simp only [fresh]; rfl) (fun _ posting => ?_) smooth
  cases posting <;> simp only [World.note, Desk.note, Stats.Tally.recordFailure,
    Stats.Tally.recordRetry, Stats.Tally.countResponse, FetchState.failures, Stats.sumOf_bump,
    if_true] <;> omega

/-- The requests that succeeded are those with a status below 400. -/
theorem Run.successful_eq (run : Run policy world requests n f) (smooth : f.Smooth)
    (fresh : world.desk.stats = Stats.empty) :
    f.world.desk.stats.successfulRequests =
      Stats.sumOf (fun status => decide (status < 400)) f.world.desk.stats.statusCodes := by
  have h := run.conserves (fun w => w.desk.stats.successfulRequests)
    (fun w => Stats.sumOf (fun status => decide (status < 400)) w.desk.stats.statusCodes)
    (fun _ => 0) rfl (by simp only [fresh]; rfl) (fun _ posting => ?_) smooth
  · simpa using h
  · cases posting <;> simp only [World.note, Desk.note, Stats.Tally.recordFailure,
      Stats.Tally.recordRetry, Stats.Tally.countResponse, Stats.sumOf_bump,
      decide_eq_true_eq] <;> omega

theorem Run.bytes_eq (run : Run policy world requests n f) (smooth : f.Smooth)
    (fresh : world.desk.stats = Stats.empty) :
    f.world.desk.stats.bytesDownloaded = (f.fetches.map fun x => x.2.bytes).sum := by
  have h := run.conserves (fun w => w.desk.stats.bytesDownloaded) (fun _ => 0) FetchState.bytes rfl
    (by simp only [fresh]; rfl) (fun _ posting => ?_) smooth
  · simpa using h
  · cases posting with
    | kept answer average body =>
      simp only [World.note, Desk.note, FetchState.bytes, body]
      omega
    | _ => rfl

theorem Run.codes_nodup (run : Run policy world requests n f) (smooth : f.Smooth)
    (fresh : world.desk.stats = Stats.empty) :
    (f.world.desk.stats.statusCodes.map Prod.fst).Nodup := by
  refine run.of_postings (P := fun f => (f.world.desk.stats.statusCodes.map Prod.fst).Nodup)
    ?_ ?_ smooth
  · simp [begin_, fresh, Stats.empty]
  · intro f before after request phase w' state _ _ posting hnodup
    cases posting with
    | overflowed answer => exact nodup_keys_assign hnodup _ _
    | kept answer average body => exact nodup_keys_assign hnodup _ _
    | _ => exact hnodup

/-- Whether some addresses are those of requests, each once and perhaps with others. -/
structure Covers (urls : List Url) (requests : List Request) : Prop where
  nodup : (urls.map Url.text).Nodup
  all : ∀ r ∈ requests, r.url.text ∈ urls.map Url.text

/-- An attempt that one address uses is one more over all addresses. -/
theorem sum_count_spend (c : Counters) (url : Url) (category other : Category) {urls : List Url}
    (nodup : (urls.map Url.text).Nodup) (mem : url.text ∈ urls.map Url.text) :
    (urls.map fun u => ((⟨assign url.text ((c.usage url).spend category) c.usages⟩ :
        Counters).usage u).count other).sum =
      (urls.map fun u => (c.usage u).count other).sum + if other = category then 1 else 0 := by
  induction urls with
  | nil => simp at mem
  | cons head rest ih =>
    obtain ⟨hhead, hrest⟩ := List.nodup_cons.mp nodup
    simp only [List.map_cons, List.sum_cons, Counters.usage_assign] at ih ⊢
    by_cases same : head.text = url.text
    · -- no other address of the list has the text
      have hothers : ∀ u ∈ rest, u.text ≠ url.text := fun u hu he =>
        hhead (List.mem_map.mpr ⟨u, hu, he.trans same.symm⟩)
      have hsum : (rest.map fun u => (if u.text = url.text then (c.usage url).spend category
          else c.usage u).count other).sum = (rest.map fun u => (c.usage u).count other).sum :=
        congrArg List.sum (List.map_congr_left fun u hu => by rw [if_neg (hothers u hu)])
      have husage : c.usage url = c.usage head := by simp only [Counters.usage, same]
      rw [hsum, if_pos same, count_spend, husage]
      split_ifs with hkey
      · rw [hkey]
        omega
      · omega
    · have hmem : url.text ∈ rest.map Url.text :=
        (List.mem_cons.mp mem).resolve_left fun he => same he.symm
      rw [if_neg same, ih hrest hmem]
      omega

/-- The retries counted under the label of a category are those of all addresses together. -/
theorem Run.reasons_eq (run : Run policy world requests n f) (smooth : f.Smooth)
    (fresh : world.desk.stats = Stats.empty) (unused : world.counters = {}) {urls : List Url}
    (covers : Covers urls requests) (category : Category) :
    (f.world.desk.stats.retryReasons.lookup category.label).getD 0 =
      (urls.map fun u => (f.world.counters.usage u).count category).sum := by
  have h := run.conserves
    (fun w => (w.desk.stats.retryReasons.lookup category.label).getD 0)
    (fun w => (urls.map fun u => (w.counters.usage u).count category).sum) (fun _ => 0) rfl
    (by simp [fresh, unused, Stats.empty, Counters.usage, Usage.count]) (fun hmem posting => ?_)
    smooth
  · simpa using h
  · cases posting with
    | retried answer chosen =>
      simp only [Desk.note, Stats.Tally.recordRetry, Stats.lookup_bump,
        sum_count_spend _ _ _ _ covers.nodup (covers.all _ hmem),
        Category.label_injective.eq_iff]
      omega
    | _ => rfl

/-- Fetches that share fresh statistics and fresh counters, over any addresses and any answers and
in any order, account for everything once all have ended and no delay broke off. Each is counted as
one request, which succeeded or failed; exchanges are as many as requests and retries; every answer
that was kept has its status counted, and those below 400 are the successes; the bytes are those of
the bodies returned; and the retries under the label of a category are those that the counters hold
for all addresses. No two categories share a label. -/
theorem fetches_account_for_statistics (run : Run policy world requests n f)
    (fresh : world.desk.stats = Stats.empty) (unused : world.counters = {}) (finished : f.Over)
    (smooth : f.Smooth) :
    let s := f.world.desk.stats
    s.totalRequests = requests.length ∧
      s.totalRequests = s.successfulRequests + s.failedRequests ∧
      f.world.asked.length = world.asked.length + (s.totalRequests + s.retryCount) ∧
      ((s.statusCodes.map Prod.fst).Nodup ∧ (s.statusCodes.map Prod.snd).sum =
        s.totalRequests - (f.fetches.map fun x => x.2.failures).sum) ∧
      s.successfulRequests = ((s.statusCodes.filter fun c => c.1 < 400).map Prod.snd).sum ∧
      s.bytesDownloaded = (f.fetches.map fun x => x.2.bytes).sum ∧
      (∀ category urls, Covers urls requests →
        (s.retryReasons.lookup category.label).getD 0 =
          (urls.map fun u => (f.world.counters.usage u).count category).sum) ∧
      Function.Injective Category.label := by
  intro s
  have hends : (f.fetches.map fun x => x.2.endings).sum = requests.length := by
    have hover : ∀ x ∈ f.fetches, x.2.endings = 1 := by
      intro x hx
      obtain ⟨result, hresult⟩ := finished x hx
      rw [hresult]
      rfl
    rw [List.map_congr_left hover, ← run.requested]
    simp
  have hquiet : (f.fetches.map fun x => x.2.hears).sum = 0 := by
    rw [List.sum_eq_zero_iff, List.forall_mem_map]
    intro x hx
    obtain ⟨result, hresult⟩ := finished x hx
    rw [hresult]
    rfl
  have hexchanges := run.exchanges_eq smooth fresh
  have hcodes := run.codes_eq smooth fresh
  simp only [Stats.sumOf, List.filter_true] at hcodes
  refine ⟨(run.total_eq smooth fresh).trans hends, run.total_split smooth fresh, ?_,
    ⟨run.codes_nodup smooth fresh, ?_⟩, run.successful_eq smooth fresh, run.bytes_eq smooth fresh,
    fun category urls covers => run.reasons_eq smooth fresh unused covers category,
    Category.label_injective⟩
  · rw [hexchanges, hquiet, Nat.add_zero, Nat.add_assoc]
  · exact (Nat.sub_eq_of_eq_add hcodes).symm

/-- A fetch that goes on by itself to its end is one order of the steps. -/
theorem Run.alone {before after : List (Request × FetchState)} {request : Request}
    {walk : List (Category × CategoryConfig)} (order : walk.Perm policy.categories) (fuel : Nat)
    {phase : FetchPhase} {paused time : Duration} {result : FetchEnd} {w w' : World σ}
    (run : Run policy world requests n ⟨w, before ++ (request, .going phase) :: after⟩)
    (ends : World.fetchFrom walk request fuel phase paused w = (some (result, time), w')) :
    ∃ n', Run policy world requests n' ⟨w', before ++ (request, .ended result) :: after⟩ := by
  induction fuel generalizing n phase paused w with
  | zero => simp [World.fetchFrom] at ends
  | succ fuel ih =>
    have hstep := run.step rfl order
    simp only [World.fetchFrom] at ends
    rcases hfetch : w.fetchStep walk request phase with ⟨step, after⟩
    rw [hfetch] at hstep ends
    rcases step with ⟨phase', pause⟩ | end_
    · exact ih hstep ends
    · obtain ⟨hresult, rfl⟩ := Prod.mk.inj ends
      obtain ⟨rfl, _⟩ := Prod.mk.inj (Option.some.inj hresult)
      exact ⟨_, hstep⟩

/-- Fetches by themselves, one after the other: how each ends, if all do. -/
def inTurn (walk : List (Category × CategoryConfig)) :
    List Request → World σ → Option (Fetches σ)
  | [], w => some ⟨w, []⟩
  | r :: rest, w =>
    match w.fetch walk r with
    | (none, _) => none
    | (some (result, _), w) =>
      (inTurn walk rest w).map fun f => ⟨f.world, (r, .ended result) :: f.fetches⟩

/-- Fetches one after the other are one order of the steps. -/
theorem Run.inTurn {walk : List (Category × CategoryConfig)} (order : walk.Perm policy.categories)
    {rest : List Request} {before : List (Request × FetchState)} {w : World σ} {g : Fetches σ}
    (run : Run policy world requests n ⟨w, before ++ rest.map fun r => (r, .going .asking)⟩)
    (ends : inTurn walk rest w = some g) :
    ∃ n', Run policy world requests n' ⟨g.world, before ++ g.fetches⟩ := by
  induction rest generalizing n before w g with
  | nil =>
    obtain rfl := Option.some.inj ends
    exact ⟨n, run⟩
  | cons r rest ih =>
    simp only [Fetches.inTurn] at ends
    rcases hfetch : w.fetch walk r with ⟨ended, w'⟩
    rw [hfetch] at ends
    cases ended with
    | none => cases ends
    | some ended =>
      obtain ⟨result, time⟩ := ended
      obtain ⟨g', hg', rfl⟩ := Option.map_eq_some_iff.mp ends
      obtain ⟨n', run'⟩ := run.alone order _ hfetch
      rw [← List.singleton_append, ← List.append_assoc] at run'
      simpa using ih run' hg'

theorem run_inTurn {walk : List (Category × CategoryConfig)} (order : walk.Perm policy.categories)
    (ends : inTurn walk requests world = some f) : ∃ n, Run policy world requests n f := by
  have begun : Run policy world requests 0
      ⟨world, [] ++ requests.map fun r => (r, .going .asking)⟩ := .start
  exact begun.inTurn order ends

/-- Whether a fetch ended without breaking off. -/
def calm : FetchState → Bool
  | .ended (.crashed _) => false
  | .ended _ => true
  | .going _ => false

theorem over_smooth_of_calm (h : ∀ x ∈ f.fetches, calm x.2 = true) : f.Over ∧ f.Smooth := by
  refine ⟨fun x hx => ?_, fun x hx crash hcrash => ?_⟩
  · have hcalm := h x hx
    cases hstate : x.2 with
    | going phase => rw [hstate] at hcalm; cases hcalm
    | ended result => exact ⟨result, rfl⟩
  · have hcalm := h x hx
    rw [hcrash] at hcalm
    cases hcalm

/-- A site that is out of service at first, with a page that cannot be reached and one that is
missing. -/
def flakySite : CannedSite where
  routes := [((samplePage "a").text, [{ status := 503 }, { body := "ok" }]),
    ((samplePage "c").text, [{ status := 404, body := "é" }])]
  unreachable := [(samplePage "b").text]

/-- The world of that site before any fetch. -/
def flakyWorld : World Unit where
  site := flakySite.site
  desk := { store := () }

/-- Requests for the pages of that site. -/
def flakyRequests : List Request := ["a", "b", "c"].map fun name => { url := samplePage name }

/-- Three fetches make four exchanges: the first is retried once, the second fails, and the third is
answered with an error that is kept. -/
theorem fetches_account_for_statistics_sample :
    ∃ n f, Run weary flakyWorld flakyRequests n f ∧ f.Over ∧ f.Smooth ∧
      f.world.desk.stats.totalRequests = 3 ∧ f.world.asked.length = 4 ∧
      f.world.desk.stats.successfulRequests = 1 ∧ f.world.desk.stats.failedRequests = 2 ∧
      (f.world.desk.stats.retryReasons.lookup Category.serverError.label).getD 0 =
        (["a", "b", "c"].map fun name =>
          (f.world.counters.usage (samplePage name)).count .serverError).sum := by
  have computed : ((inTurn weary.categories flakyRequests flakyWorld).map fun f =>
      (f.fetches.all fun x => calm x.2, f.world.desk.stats.retryCount,
        f.world.desk.stats.statusCodes)) = some (true, 1, [(200, 1), (404, 1)]) := by
    decide +kernel
  obtain ⟨f, hturn, hf⟩ := Option.map_eq_some_iff.mp computed
  obtain ⟨hcalm, hcounts⟩ := Prod.mk.inj hf
  obtain ⟨retries, codes⟩ := Prod.mk.inj hcounts
  obtain ⟨n, run⟩ := run_inTurn (List.Perm.refl weary.categories) hturn
  obtain ⟨finished, smooth⟩ := over_smooth_of_calm (List.all_eq_true.mp hcalm)
  obtain ⟨total, split, exchanges, _, successful, _, reasons, _⟩ :=
    fetches_account_for_statistics run rfl rfl finished smooth
  have covers : Covers (["a", "b", "c"].map samplePage) flakyRequests :=
    ⟨by decide +kernel, by decide +kernel⟩
  have total : f.world.desk.stats.totalRequests = 3 := total
  have successful : f.world.desk.stats.successfulRequests = 1 := by
    rw [successful, codes]
    rfl
  refine ⟨n, f, run, finished, smooth, total, ?_, successful, ?_, reasons .serverError _ covers⟩
  · rw [exchanges, retries, total]
    rfl
  · rw [total, successful] at split
    omega

end Fetches

end SiteSpiders

import SiteSpiders.Proofs.Retry.History

/-!
# The greatest delay

How far the greatest delay of a category binds what a policy asks to wait. It cuts every delay
but the first, which is the initial one as it stands. So all delays of a policy keep to their
bounds exactly if the initial ones do of those categories that can be chosen at all.
-/
namespace SiteSpiders.Retry

theorem CategoryConfig.delay_le {c : CategoryConfig} {attempt : Nat} {d : Duration}
    (h : c.delay attempt = .ok d) (hattempt : attempt ≠ 0) : d.nanos ≤ c.maxDelay.nanos := by
  rw [CategoryConfig.delay, if_neg hattempt] at h
  cases hraw : c.rawDelay attempt with
  | error e => simp [hraw, Except.map] at h
  | ok raw =>
    obtain rfl : raw.shorter c.maxDelay = d := by simpa [hraw, Except.map] using h
    unfold Duration.shorter
    split_ifs with hle
    · exact hle
    · exact le_refl _

/-- Whether a category can be chosen: it allows an attempt, and some response belongs to it. -/
def CategoryConfig.Reachable (c : CategoryConfig) : Prop :=
  0 < c.maxRetries ∧ ∃ status content, c.applies status content = true

namespace Policy

/-- Whether a decision can put a delay on a category that was chosen so many times before for the
same address, after whatever other decisions. -/
def Delays (policy : Policy) (category : Category) (earlier : Nat) (delay : Duration) : Prop :=
  ∃ c log, Counters.History policy c log ∧ ∃ walk url status content,
    walk.Perm policy.categories ∧ chosen log url category = earlier ∧
      (c.consider walk url status content).1 = some (category, .ok delay)

/-- Whether no delay is ever longer than the greatest one of its category. -/
def Capped (policy : Policy) : Prop :=
  ∀ k ∈ policy.categories, ∀ earlier delay, policy.Delays k.1 earlier delay →
    delay.nanos ≤ k.2.maxDelay.nanos

variable {policy : Policy} {k : Category × CategoryConfig}

theorem Delays.delay_eq (distinct : policy.Distinct) (hk : k ∈ policy.categories) {earlier : Nat}
    {delay : Duration} (h : policy.Delays k.1 earlier delay) :
    k.2.Reachable ∧ k.2.delay earlier = .ok delay := by
  obtain ⟨c, log, history, walk, url, status, content, order, rfl, verdict⟩ := h
  rcases c.consider_cases walk url status content with ⟨heq, _⟩ | ⟨m, hm, applies, left, heq⟩
  · rw [heq] at verdict
    cases verdict
  · rw [heq] at verdict
    obtain ⟨hkey, hdelay⟩ := Prod.mk.inj (Option.some.inj verdict)
    obtain rfl : m = k := List.inj_on_of_nodup_map distinct (order.mem_iff.mp hm) hk hkey
    refine ⟨⟨Nat.zero_lt_of_lt left, status, content, applies⟩, ?_⟩
    rw [← hdelay, history.count_eq]

/-- A category that can be chosen is, by the first decision that walks it before the others. -/
theorem delays_first (hk : k ∈ policy.categories) (reachable : k.2.Reachable) :
    policy.Delays k.1 0 k.2.initialDelay := by
  obtain ⟨hleft, status, content, applies⟩ := reachable
  obtain ⟨before, after, hcategories⟩ := List.append_of_mem hk
  have order : (k :: (before ++ after)).Perm policy.categories :=
    hcategories ▸ List.perm_middle.symm
  refine ⟨{}, [], .new, k :: (before ++ after), default, status, content, order, rfl, ?_⟩
  have hnone : ({} : Usage).count k.1 = 0 := rfl
  have hchoose : Counters.choose (k :: (before ++ after)) {} status content = some k :=
    List.find?_cons_of_pos (by simp [hnone, hleft, applies])
  simp [Counters.consider, Counters.usage, hchoose, CategoryConfig.delay, hnone]

end Policy

/-- A policy's delay for the first attempt of a category is the initial one, and for a later
attempt at most the greatest one. So no delay is longer than the greatest one of its category
exactly if no initial delay is, of the categories that can be chosen. -/
theorem delays_capped_iff {policy : Policy} (distinct : policy.Distinct) :
    (∀ k ∈ policy.categories, ∀ earlier delay, policy.Delays k.1 earlier delay →
      if earlier = 0 then delay = k.2.initialDelay else delay.nanos ≤ k.2.maxDelay.nanos) ∧
    (policy.Capped ↔ ∀ k ∈ policy.categories, k.2.Reachable →
      k.2.initialDelay.nanos ≤ k.2.maxDelay.nanos) := by
  have hdelays : ∀ k ∈ policy.categories, ∀ earlier delay, policy.Delays k.1 earlier delay →
      if earlier = 0 then delay = k.2.initialDelay else delay.nanos ≤ k.2.maxDelay.nanos := by
    intro k hk earlier delay h
    obtain ⟨-, hdelay⟩ := h.delay_eq distinct hk
    split_ifs with hfirst
    · rw [hfirst, CategoryConfig.delay, if_pos rfl] at hdelay
      exact (Except.ok.inj hdelay).symm
    · exact CategoryConfig.delay_le hdelay hfirst
  refine ⟨hdelays, fun capped k hk reachable => ?_, fun hinitial k hk earlier delay h => ?_⟩
  · exact capped k hk 0 _ (Policy.delays_first hk reachable)
  · obtain ⟨reachable, -⟩ := h.delay_eq distinct hk
    have hdelay := hdelays k hk earlier delay h
    split_ifs at hdelay with hfirst
    · rw [hdelay]
      exact hinitial k hk reachable
    · exact hdelay

/-- The careful policy keeps to its greatest delays. -/
theorem delays_capped_polite : Policy.polite.Distinct ∧ Policy.polite.Capped := by
  have distinct : Policy.polite.Distinct := List.nodup_iff_pairwise_ne.mpr (by decide)
  refine ⟨distinct, (delays_capped_iff distinct).2.mpr fun k hk _ => ?_⟩
  have hinitial : ∀ k ∈ Policy.polite.categories, k.2.initialDelay.nanos ≤ k.2.maxDelay.nanos := by
    decide
  exact hinitial k hk

/-- A category whose initial delay is longer than its greatest one. -/
def hastyConfig : CategoryConfig where
  maxRetries := 1
  initialDelay := .ofSeconds 2
  maxDelay := .ofSeconds 1
  backoff := .constant
  conditions := [.status 429]

/-- A policy may ask to wait longer than its greatest delay. -/
theorem first_delay_above_cap :
    let policy := ({} : Policy).insert .rateLimit hastyConfig
    policy.Distinct ∧ policy.Delays .rateLimit 0 (.ofSeconds 2) ∧ ¬policy.Capped := by
  intro policy
  have hmem : (.rateLimit, hastyConfig) ∈ policy.categories := List.mem_singleton_self _
  have hdelays : policy.Delays .rateLimit 0 (.ofSeconds 2) :=
    Policy.delays_first hmem ⟨by decide, 429, "", by decide⟩
  refine ⟨Policy.distinct_empty.insert _ _, hdelays, fun capped => ?_⟩
  exact absurd (capped _ hmem 0 _ hdelays) (by decide)

end SiteSpiders.Retry

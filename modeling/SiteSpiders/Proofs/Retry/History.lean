import Mathlib.Data.List.Nodup
import SiteSpiders.Proofs.Retry.Budget

/-!
# The history of retry counters

What the counters of a policy come to over any sequence of decisions. A decision is taken
for an address and a response, and walks the categories in an order of its own. The
counters of an address say how often each category was chosen for it, whatever came of
the delays, so the attempts of a category are numbered without gap or repetition.
-/
namespace SiteSpiders.Retry

/-- Whether no category has two treatments. -/
def Policy.Distinct (p : Policy) : Prop := (p.categories.map Prod.fst).Nodup

lemma Policy.distinct_empty : ({} : Policy).Distinct := List.nodup_nil

theorem Policy.Distinct.insert {p : Policy} (h : p.Distinct) (category : Category)
    (config : CategoryConfig) : (p.insert category config).Distinct := by
  have hkept : ((p.categories.filter fun c => c.1 != category).map Prod.fst).Nodup :=
    List.Nodup.sublist (List.filter_sublist.map _) h
  simp only [Policy.Distinct, Policy.insert, List.map_append, List.map_cons, List.map_nil]
  refine List.nodup_append.mpr ⟨hkept, List.nodup_singleton _, ?_⟩
  intro a ha b hb
  obtain ⟨c, hc, rfl⟩ := List.mem_map.mp ha
  rw [List.mem_singleton.mp hb]
  simpa using (List.mem_filter.mp hc).2

/-- Setting a key adds it to the keys, unless it is one. -/
theorem keys_assign {α β : Type} [DecidableEq α] (key : α) (value : β) (l : List (α × β)) :
    (assign key value l).map Prod.fst =
      if key ∈ l.map Prod.fst then l.map Prod.fst else l.map Prod.fst ++ [key] := by
  induction l with
  | nil => simp [assign]
  | cons head rest ih =>
    obtain ⟨k, v⟩ := head
    unfold assign
    by_cases h : k = key
    · subst h
      simp
    · have hne : key ≠ k := fun he => h he.symm
      rw [if_neg h, List.map_cons, ih]
      by_cases hmem : key ∈ rest.map Prod.fst
      · simp only [hmem, if_true, List.map_cons, List.mem_cons, or_true]
      · simp only [hmem, if_false, List.map_cons, List.mem_cons, hne, or_false,
          List.cons_append]

theorem nodup_keys_assign {α β : Type} [DecidableEq α] {l : List (α × β)}
    (h : (l.map Prod.fst).Nodup) (key : α) (value : β) :
    ((assign key value l).map Prod.fst).Nodup := by
  rw [keys_assign]
  split_ifs with hmem
  · exact h
  · refine List.nodup_append.mpr ⟨h, List.nodup_singleton _, ?_⟩
    intro a ha b hb he
    rw [List.mem_singleton.mp hb] at he
    exact hmem (he ▸ ha)

theorem sum_assign {α : Type} [DecidableEq α] (key : α) (value : Nat) (l : List (α × Nat)) :
    ((assign key value l).map Prod.snd).sum + (l.lookup key).getD 0 =
      (l.map Prod.snd).sum + value := by
  induction l with
  | nil => simp [assign]
  | cons head rest ih =>
    obtain ⟨k, v⟩ := head
    unfold assign
    by_cases h : k = key
    · subst h
      simp only [if_true, List.map_cons, List.sum_cons, List.lookup_cons_self, Option.getD_some]
      omega
    · have hne : (key == k) = false := beq_false_of_ne fun he => h he.symm
      simp only [if_neg h, List.map_cons, List.sum_cons, List.lookup_cons, hne]
      omega

/-- Whether the counts of an address are kept once for each category and add up. -/
structure Usage.Sound (u : Usage) : Prop where
  keys : (u.counts.map Prod.fst).Nodup
  total : u.total = (u.counts.map Prod.snd).sum

lemma Usage.sound_empty : ({} : Usage).Sound := ⟨List.nodup_nil, rfl⟩

theorem Usage.Sound.spend {u : Usage} (h : u.Sound) (category : Category) :
    (u.spend category).Sound := by
  refine ⟨nodup_keys_assign h.keys category _, ?_⟩
  have hsum := sum_assign category (u.count category + 1) u.counts
  have hcount : (u.counts.lookup category).getD 0 = u.count category := rfl
  have htotal := h.total
  simp only [Usage.spend]
  omega

namespace Counters

variable (c : Counters) (walk : List (Category × CategoryConfig)) (url : Url) (status : Nat)
  (content : String)

@[simp] theorem usage_assign (u : Usage) (other : Url) :
    (⟨assign url.text u c.usages⟩ : Counters).usage other =
      if other.text = url.text then u else c.usage other := by
  by_cases h : other.text = url.text
  · simp [usage, h]
  · simp [usage, h]

/-- A decision, case by case. Either no category applies that has attempts left, and the counters
stay, or one of those is chosen and an attempt of it is used. -/
theorem consider_cases :
    (c.consider walk url status content = (none, c) ∧
        ∀ k ∈ walk, k.2.applies status content = true →
          k.2.maxRetries ≤ (c.usage url).count k.1) ∨
      ∃ k ∈ walk, k.2.applies status content = true ∧
        (c.usage url).count k.1 < k.2.maxRetries ∧
        c.consider walk url status content =
          (some (k.1, k.2.delay ((c.usage url).count k.1)),
            ⟨assign url.text ((c.usage url).spend k.1) c.usages⟩) := by
  unfold consider
  dsimp only
  cases hchoose : choose walk (c.usage url) status content with
  | none =>
    refine Or.inl ⟨rfl, fun k hk applies => ?_⟩
    have hnot := List.find?_eq_none.mp hchoose k hk
    simp only [applies, Bool.and_true, decide_eq_true_eq] at hnot
    omega
  | some k =>
    have hfound := List.find?_some hchoose
    simp only [Bool.and_eq_true, decide_eq_true_eq] at hfound
    exact Or.inr ⟨k, List.mem_of_find?_eq_some hchoose, hfound.2, hfound.1, rfl⟩

theorem consider_usage_other {other : Url} (h : other.text ≠ url.text) :
    (c.consider walk url status content).2.usage other = c.usage other := by
  rcases c.consider_cases walk url status content with ⟨heq, _⟩ | ⟨k, _, _, _, heq⟩
  · rw [heq]
  · rw [heq, usage_assign, if_neg h]

theorem consider_none (h : (c.consider walk url status content).1 = none) :
    (c.consider walk url status content).2 = c := by
  rcases c.consider_cases walk url status content with ⟨heq, _⟩ | ⟨k, _, _, _, heq⟩
  · rw [heq]
  · rw [heq] at h
    cases h

theorem consider_spends {category : Category} {delay : Except Crash Duration}
    (h : (c.consider walk url status content).1 = some (category, delay)) :
    (c.consider walk url status content).2.usage url = (c.usage url).spend category := by
  rcases c.consider_cases walk url status content with ⟨heq, _⟩ | ⟨k, _, _, _, heq⟩
  · rw [heq] at h
    cases h
  · rw [heq] at h ⊢
    cases h
    rw [usage_assign, if_pos rfl]

/-- A response is kept exactly if all categories that apply are exhausted. -/
theorem consider_eq_none_iff :
    (c.consider walk url status content).1 = none ↔
      ∀ k ∈ walk, k.2.applies status content = true →
        k.2.maxRetries ≤ (c.usage url).count k.1 := by
  rcases c.consider_cases walk url status content with
    ⟨heq, hall⟩ | ⟨k, hk, applies, hleft, heq⟩
  · rw [heq]
    exact ⟨fun _ => hall, fun _ => rfl⟩
  · rw [heq]
    refine ⟨nofun, fun hall => ?_⟩
    have hle := hall k hk applies
    omega

end Counters

/-- A decision that was taken: for which address, and the category chosen with what came of its
delay, `none` if the response was kept. -/
structure Decision where
  url : Url
  verdict : Option (Category × Except Crash Duration)

/-- Whether a decision chose a category for an address. -/
def Decision.chose (d : Decision) (url : Url) (category : Category) : Bool :=
  d.url.text == url.text && d.verdict.map Prod.fst == some category

/-- How many of some decisions chose a category for an address. -/
def chosen (log : List Decision) (url : Url) (category : Category) : Nat :=
  log.countP fun d => d.chose url category

/-- What the counters of a policy can come to, with the decisions taken, in order of time. All who
share the policy share its counters, and each decision walks the categories in an order of its
own. -/
inductive Counters.History (policy : Policy) : Counters → List Decision → Prop
  | new : History policy {} []
  | decision {c : Counters} {log : List Decision} {walk : List (Category × CategoryConfig)}
      (history : History policy c log) (order : walk.Perm policy.categories) (url : Url)
      (status : Nat) (content : String) :
      History policy (c.consider walk url status content).2
        (log ++ [⟨url, (c.consider walk url status content).1⟩])

namespace Counters.History

variable {policy : Policy} {c : Counters} {log : List Decision}

/-- The counts of every address stay within the budgets of the policy and add up. -/
theorem within (distinct : policy.Distinct) (history : c.History policy log) (url : Url) :
    (c.usage url).Sound ∧
      ∀ k ∈ policy.categories, (c.usage url).count k.1 ≤ k.2.maxRetries := by
  induction history with
  | new => exact ⟨Usage.sound_empty, fun _ _ => Nat.zero_le _⟩
  | @decision c log walk _ order at_ status content ih =>
    rcases c.consider_cases walk at_ status content with ⟨heq, _⟩ | ⟨k, hk, _, hleft, heq⟩
    · rw [heq]
      exact ih
    · rw [heq, usage_assign]
      split_ifs with same
      · have husage : c.usage at_ = c.usage url := by simp only [usage, same]
        rw [husage] at hleft ⊢
        refine ⟨ih.1.spend k.1, fun m hm => ?_⟩
        rw [count_spend]
        split_ifs with hkey
        -- the category that was chosen had an attempt left
        · have hmk : m = k := List.inj_on_of_nodup_map distinct hm (order.mem_iff.mp hk) hkey
          rw [hmk]
          exact hleft
        · exact ih.2 m hm
      · exact ih

/-- The count of a category is the number of decisions that chose it for the address. -/
theorem count_eq (history : c.History policy log) (url : Url) (category : Category) :
    (c.usage url).count category = chosen log url category := by
  induction history with
  | new => rfl
  | @decision c log walk _ _ at_ status content ih =>
    rcases c.consider_cases walk at_ status content with ⟨heq, _⟩ | ⟨k, _, _, _, heq⟩
    · simp [heq, ih, chosen, Decision.chose]
    · simp only [heq, usage_assign, chosen, List.countP_append, List.countP_singleton,
        Decision.chose, Option.map_some]
      by_cases same : url.text = at_.text
      · have husage : c.usage at_ = c.usage url := by simp only [usage, same]
        by_cases hkey : category = k.1
        · subst hkey
          simp [same, husage, ih, chosen, Decision.chose]
        · have hkey' : k.1 ≠ category := fun he => hkey he.symm
          simp [same, husage, ih, chosen, Decision.chose, hkey, hkey']
      · have hne : at_.text ≠ url.text := fun he => same he.symm
        simp [same, hne, ih, chosen, Decision.chose]

/-- The attempts of a category are numbered in the order of the decisions that chose it. -/
theorem attempt_eq (history : c.History policy log) {before after : List Decision} {d : Decision}
    (at_ : log = before ++ d :: after) {category : Category} {delay : Except Crash Duration}
    (verdict : d.verdict = some (category, delay)) :
    ∃ config, (category, config) ∈ policy.categories ∧
      delay = config.delay (chosen before d.url category) := by
  induction history generalizing after with
  | new => simp at at_
  | @decision c log walk history order url status content ih =>
    rcases List.eq_nil_or_concat after with rfl | ⟨after, last, rfl⟩
    · obtain ⟨rfl, hlast⟩ := List.append_inj' at_ rfl
      obtain rfl := List.singleton_inj.mp hlast
      rcases c.consider_cases walk url status content with ⟨heq, _⟩ | ⟨k, hk, _, _, heq⟩
      · rw [heq] at verdict
        cases verdict
      · rw [heq] at verdict
        cases verdict
        refine ⟨k.2, order.mem_iff.mp hk, ?_⟩
        rw [history.count_eq]
    · rw [List.concat_eq_append, ← List.cons_append, ← List.append_assoc] at at_
      exact ih (List.append_inj' at_ rfl).1

end Counters.History

/-- After any decisions, each in an order of its own, the counts of an address are within the
budgets, add up to the total, and say how often each category was chosen for it. The decisions
that chose a category took its delays one after the other. A further decision changes no other
address, and nothing at all if the response is kept, which is so exactly if the categories that
apply are exhausted; otherwise an attempt is used, whatever came of the delay. -/
theorem history_counts_choices {policy : Policy} (distinct : policy.Distinct) {c : Counters}
    {log : List Decision} (history : c.History policy log) :
    (∀ url, (∀ k ∈ policy.categories, (c.usage url).count k.1 ≤ k.2.maxRetries) ∧
        ((c.usage url).counts.map Prod.fst).Nodup ∧
        (c.usage url).total = ((c.usage url).counts.map Prod.snd).sum ∧
        ∀ category, (c.usage url).count category = chosen log url category) ∧
      (∀ before d after, log = before ++ d :: after →
        ∀ category delay, d.verdict = some (category, delay) →
          ∃ config, (category, config) ∈ policy.categories ∧
            delay = config.delay (chosen before d.url category)) ∧
      ∀ walk, walk.Perm policy.categories → ∀ url status content,
        (∀ other : Url, other.text ≠ url.text →
          (c.consider walk url status content).2.usage other = c.usage other) ∧
        ((c.consider walk url status content).1 = none →
          ∀ other, (c.consider walk url status content).2.usage other = c.usage other) ∧
        ((c.consider walk url status content).1 = none ↔
          ∀ k ∈ policy.categories, k.2.applies status content = true →
            k.2.maxRetries ≤ (c.usage url).count k.1) ∧
        ∀ category delay, (c.consider walk url status content).1 = some (category, delay) →
          (c.consider walk url status content).2.usage url = (c.usage url).spend category := by
  refine ⟨fun url => ?_, fun before d after at_ category delay => history.attempt_eq at_, ?_⟩
  · obtain ⟨sound, hle⟩ := history.within distinct url
    exact ⟨hle, sound.keys, sound.total, history.count_eq url⟩
  · intro walk order url status content
    refine ⟨fun other => c.consider_usage_other walk url status content, ?_, ?_, ?_⟩
    · intro kept other
      rw [c.consider_none walk url status content kept]
    · rw [c.consider_eq_none_iff]
      exact forall_congr' fun k => imp_congr_left order.mem_iff
    · exact fun category delay => c.consider_spends walk url status content

/-- A category whose first delay is the longest there is, so that the second cannot be computed. -/
def brittleConfig : CategoryConfig where
  maxRetries := 2
  initialDelay := ⟨Duration.bound - 1⟩
  backoff := .linear
  conditions := [.status 503]

/-- A policy with two categories that apply to the same responses. -/
def brittlePolicy : Policy :=
  (({} : Policy).insert .serverError politeServerError).insert (.custom "brittle") brittleConfig

lemma brittlePolicy_distinct : brittlePolicy.Distinct :=
  (Policy.distinct_empty.insert _ _).insert _ _

/-- An address that answers with an error. -/
def brittlePage : Url where
  scheme := "https"
  authority := some { host := some (.domain "site.example") }
  path := .rooted []

/-- Three decisions in two orders, of which the last breaks off at its delay: its attempt is counted
all the same, and is numbered after the other of its category. -/
theorem history_counts_choices_sample :
    let first := ({} : Counters).consider brittlePolicy.categories brittlePage 503 ""
    let second := first.2.consider brittlePolicy.categories.reverse brittlePage 503 ""
    let third := second.2.consider brittlePolicy.categories.reverse brittlePage 503 ""
    let log : List Decision := [⟨brittlePage, first.1⟩, ⟨brittlePage, second.1⟩,
      ⟨brittlePage, third.1⟩]
    third.1.map (fun v => (v.1, v.2.toOption)) = some (.custom "brittle", none) ∧
      third.2.History brittlePolicy log ∧ chosen log brittlePage (.custom "brittle") = 2 ∧
      (third.2.usage brittlePage).count (.custom "brittle") = 2 ∧
      (third.2.usage brittlePage).total = 3 ∧
      ∃ config, (.custom "brittle", config) ∈ brittlePolicy.categories ∧
        third.1 = some (.custom "brittle", config.delay 1) := by
  intro first second third log
  have reversed : brittlePolicy.categories.reverse.Perm brittlePolicy.categories :=
    List.reverse_perm _
  have history : third.2.History brittlePolicy log :=
    ((Counters.History.new.decision (List.Perm.refl _) brittlePage 503 "").decision reversed
      brittlePage 503 "").decision reversed brittlePage 503 ""
  have computed : chosen log brittlePage (.custom "brittle") = 2 ∧
      chosen [⟨brittlePage, first.1⟩, ⟨brittlePage, second.1⟩] brittlePage (.custom "brittle") = 1 ∧
      third.1.map (fun v => (v.1, v.2.toOption)) = some (.custom "brittle", none) ∧
      ((third.2.usage brittlePage).counts.map Prod.snd).sum = 3 := by
    decide +kernel
  obtain ⟨hlog, hbefore, hthird, hsum⟩ := computed
  obtain ⟨husage, hdelays, _⟩ := history_counts_choices brittlePolicy_distinct history
  obtain ⟨_, _, htotal, hcount⟩ := husage brittlePage
  refine ⟨hthird, history, hlog, (hcount _).trans hlog, htotal.trans hsum, ?_⟩
  obtain ⟨⟨category, delay⟩, hverdict, hpair⟩ := Option.map_eq_some_iff.mp hthird
  obtain ⟨rfl, _⟩ := Prod.mk.inj hpair
  obtain ⟨config, hmem, rfl⟩ := hdelays [⟨brittlePage, first.1⟩, ⟨brittlePage, second.1⟩]
    ⟨brittlePage, third.1⟩ [] rfl _ _ hverdict
  exact ⟨config, hmem, hbefore ▸ hverdict⟩

end SiteSpiders.Retry

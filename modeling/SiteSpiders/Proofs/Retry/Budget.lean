import Mathlib.Algebra.GroupWithZero.Nat
import Mathlib.Algebra.Order.BigOperators.Group.List
import Mathlib.Algebra.Order.Group.Nat
import SiteSpiders.Retry.Counters

/-!
# The budget of retries

What an address may still be retried, over all categories of a policy. Every retry takes
from the budget of its address and from no other.
-/
namespace SiteSpiders.Retry

/-- Setting a key changes what is found under the key and nothing else. -/
@[simp] theorem lookup_assign {α β : Type} [DecidableEq α] (key k : α) (value : β)
    (l : List (α × β)) :
    (assign key value l).lookup k = if k = key then some value else l.lookup k := by
  induction l with
  | nil =>
    by_cases h : k = key
    · simp [assign, h]
    · simp [assign, h, List.lookup_cons, beq_false_of_ne h]
  | cons head rest ih =>
    obtain ⟨k', v⟩ := head
    unfold assign
    by_cases hhead : k' = key
    · subst hhead
      by_cases h : k = k'
      · simp [h]
      · simp [h, List.lookup_cons, beq_false_of_ne h]
    · rw [if_neg hhead]
      by_cases h : k = k'
      · subst h
        simp [hhead]
      · simp [List.lookup_cons, beq_false_of_ne h, ih]

@[simp] theorem count_spend (u : Usage) (category c : Category) :
    (u.spend category).count c = if c = category then u.count category + 1 else u.count c := by
  by_cases h : c = category
  · simp [Usage.count, Usage.spend, h]
  · simp [Usage.count, Usage.spend, h]

/-- What is left of the retries of a policy for an address that has used some. -/
def Usage.left (u : Usage) (walk : List (Category × CategoryConfig)) : Nat :=
  (walk.map fun c => c.2.maxRetries - u.count c.1).sum

theorem Usage.left_le (u : Usage) (walk : List (Category × CategoryConfig)) :
    u.left walk ≤ (walk.map fun c => c.2.maxRetries).sum :=
  List.sum_le_sum fun _ _ => Nat.sub_le _ _

theorem Usage.left_spend_lt {u : Usage} {walk : List (Category × CategoryConfig)}
    {c : Category × CategoryConfig} (hc : c ∈ walk) (hleft : u.count c.1 < c.2.maxRetries) :
    (u.spend c.1).left walk < u.left walk := by
  refine List.sum_lt_sum _ _ ?_ ⟨c, hc, ?_⟩
  · intro d _
    rw [count_spend]
    split_ifs with h
    · rw [h]
      omega
    · exact Nat.le_refl _
  · rw [count_spend, if_pos rfl]
    omega

/-- What is left of the retries of a policy for an address. -/
def Counters.left (c : Counters) (walk : List (Category × CategoryConfig)) (url : Url) : Nat :=
  (c.usage url).left walk

variable {c : Counters} {walk : List (Category × CategoryConfig)} {url : Url} {status : Nat}
  {content : String}

/-- A retry takes from the budget of its address, at a delay that its category gives to an attempt
within the category's bound. -/
theorem consider_some {category : Category} {delay : Except Crash Duration}
    (h : (c.consider walk url status content).1 = some (category, delay)) :
    (c.consider walk url status content).2.left walk url < c.left walk url ∧
      ∃ config, (category, config) ∈ walk ∧ ∃ attempt < config.maxRetries,
        config.delay attempt = delay := by
  unfold Counters.consider at h ⊢
  dsimp only at h ⊢
  split at h
  · cases h
  · rename_i cat config hchoose
    obtain ⟨rfl, rfl⟩ := Prod.mk.inj (Option.some.inj h)
    have hmem := List.mem_of_find?_eq_some hchoose
    have hfound := List.find?_some hchoose
    have hcount : (c.usage url).count cat < config.maxRetries := by
      simp only [Bool.and_eq_true, decide_eq_true_eq] at hfound
      exact hfound.1
    refine ⟨?_, config, hmem, _, hcount, rfl⟩
    have hlt := Usage.left_spend_lt hmem hcount
    simpa [Counters.left, Counters.usage] using hlt

theorem consider_left_other {other : Url} (h : other.text ≠ url.text) :
    (c.consider walk url status content).2.left walk other = c.left walk other := by
  unfold Counters.consider
  dsimp only
  split
  · rfl
  · simp [Counters.left, Counters.usage, h]

end SiteSpiders.Retry

import Mathlib.Algebra.Order.Field.Power
import Mathlib.Algebra.Order.Field.Rat
import Mathlib.Data.Nat.Log
import Mathlib.Data.Rat.Cast.Order
import Mathlib.Tactic.FieldSimp
import Mathlib.Tactic.GCongr
import Mathlib.Tactic.Linarith
import Mathlib.Tactic.NormNum
import Mathlib.Tactic.Positivity
import Mathlib.Tactic.Ring
import SiteSpiders.Number.Floating

/-!
# Rounding

What it means that a floating-point operation rounds its exact result to the nearest number of
the format. A number of the format is never crossed by rounding, so that a bound on an exact
result which the format has holds of the rounded one. Only numbers that are not negative are
looked at.
-/
namespace SiteSpiders.Number

/-! ## Integers -/

/-- Whether an integer is nearest to a quantity, and even if there is another as near. -/
structure Nearest (x : ℚ) (m : ℕ) : Prop where
  above : m ≤ x + 1 / 2
  below : x ≤ m + 1 / 2
  tie : x = m + 1 / 2 ∨ m = x + 1 / 2 → Even m

namespace Nearest

variable {x : ℚ} {m k : ℕ}

theorem le (h : Nearest x m) (hk : k ≤ x) : k ≤ m := by
  have hlt : (k : ℚ) < m + 1 := by linarith [h.below]
  exact Nat.lt_succ_iff.mp (by exact_mod_cast hlt)

theorem ge (h : Nearest x m) (hk : x ≤ k) : m ≤ k := by
  have hlt : (m : ℚ) < k + 1 := by linarith [h.above]
  exact Nat.lt_succ_iff.mp (by exact_mod_cast hlt)

theorem succ_le (h : Nearest x m) (hodd : ¬Even k) (hk : k + 1 / 2 ≤ x) : k + 1 ≤ m := by
  have hle : k ≤ m := h.le (by linarith)
  refine lt_of_le_of_ne hle fun heq => hodd ?_
  subst heq
  exact h.tie (.inl (le_antisymm h.below hk))

theorem le_of_lt (h : Nearest x m) (hk : x < k + 1 / 2) : m ≤ k := by
  have hlt : (m : ℚ) < k + 1 := by linarith [h.above]
  exact Nat.lt_succ_iff.mp (by exact_mod_cast hlt)

end Nearest

/-- A quotient is rounded to the nearest integer. -/
theorem roundDiv_nearest (num : ℕ) {den : ℕ} (hden : 0 < den) :
    Nearest ((num : ℚ) / den) (roundDiv num den) := by
  have hpos : (0 : ℚ) < den := by exact_mod_cast hden
  have hparts : (den : ℚ) * (num / den : ℕ) + (num % den : ℕ) = num := by
    exact_mod_cast Nat.div_add_mod num den
  have hdiv : (num : ℚ) / den = (num / den : ℕ) + (num % den : ℕ) / den := by
    rw [← hparts, add_div, mul_div_cancel_left₀ _ hpos.ne']
  have hlow : 2 * (num % den) < den ↔ ((num % den : ℕ) : ℚ) / den < 1 / 2 := by
    rw [div_lt_div_iff₀ hpos two_pos, one_mul, mul_comm]
    exact_mod_cast Iff.rfl
  have hhigh : den < 2 * (num % den) ↔ (1 / 2 : ℚ) < (num % den : ℕ) / den := by
    rw [div_lt_div_iff₀ two_pos hpos, one_mul, mul_comm]
    exact_mod_cast Iff.rfl
  have hrest : (0 : ℚ) ≤ (num % den : ℕ) / den := by positivity
  have hrest' : ((num % den : ℕ) : ℚ) / den < 1 := by
    rw [div_lt_one hpos]
    exact_mod_cast Nat.mod_lt num hden
  have hsucc : ((num / den + 1 : ℕ) : ℚ) = (num / den : ℕ) + 1 := Nat.cast_succ _
  rw [hdiv, roundDiv]
  simp only [hlow, hhigh]
  generalize ((num % den : ℕ) : ℚ) / den = rest at hrest hrest'
  split_ifs with below above even
  · refine ⟨by linarith, by linarith, ?_⟩
    rintro (h | h) <;> linarith
  · refine ⟨by linarith, by linarith, ?_⟩
    rintro (h | h) <;> linarith
  · exact ⟨by linarith, by linarith, fun _ => Nat.even_iff.mpr even⟩
  · refine ⟨by linarith, by linarith, fun _ => ?_⟩
    rw [Nat.even_add_one, Nat.even_iff]
    exact even

/-! ## Scales -/

theorem scaleDown_pos {base num den : ℕ} (hbase : 0 < base) (hden : 0 < den) (e : ℤ) :
    0 < (scaleDown base num den e).2 := by
  unfold scaleDown
  split_ifs
  · exact Nat.mul_pos hden (Nat.pow_pos hbase)
  · exact hden

theorem scaleDown_eq (base num den : ℕ) (e : ℤ) :
    ((scaleDown base num den e).1 : ℚ) / (scaleDown base num den e).2 =
      num / den / (base : ℚ) ^ e := by
  unfold scaleDown
  split_ifs with h
  · obtain ⟨n, rfl⟩ := Int.eq_ofNat_of_zero_le h
    simp [div_div]
  · obtain ⟨n, rfl⟩ : ∃ n : ℕ, e = -n := ⟨(-e).toNat, by omega⟩
    simp [mul_div_right_comm]

theorem two_pow_mul {k n m : ℕ} {e : ℤ} (h : k + e + n = m) :
    (2 : ℚ) ^ k * 2 ^ e * 2 ^ n = 2 ^ m := by
  rw [← zpow_natCast, ← zpow_natCast, ← zpow_natCast, ← zpow_add₀ two_ne_zero,
    ← zpow_add₀ two_ne_zero, h]

namespace FloatFormat

/-- Whether a format has a mantissa, and exponents to both sides of zero. -/
structure Proper (f : FloatFormat) : Prop where
  precision : 0 < f.precision
  least : f.minExponent ≤ 0
  greatest : 0 ≤ f.maxExponent

lemma double_proper : double.Proper := ⟨by decide, by decide, by decide⟩

lemma single_proper : single.Proper := ⟨by decide, by decide, by decide⟩

lemma Proper.exponents {f : FloatFormat} (hf : f.Proper) : f.minExponent ≤ f.maxExponent :=
  hf.least.trans hf.greatest

/-- Whether an exponent leaves a quantity a mantissa of full length, or is the least one and
leaves it a shorter mantissa. -/
structure Scale (f : FloatFormat) (q : ℚ) (e : ℤ) : Prop where
  least : f.minExponent ≤ e
  lt : q < 2 ^ f.precision * 2 ^ e
  full : e = f.minExponent ∨ 2 ^ (f.precision - 1) * 2 ^ e ≤ q

variable {f : FloatFormat}

theorem Proper.double_mantissa (hf : f.Proper) (e : ℤ) :
    (2 : ℚ) ^ f.precision * 2 ^ e = 2 ^ (f.precision - 1) * 2 ^ (e + 1) := by
  obtain ⟨p, hp⟩ := Nat.exists_eq_succ_of_ne_zero hf.precision.ne'
  rw [hp, Nat.succ_sub_one, pow_succ, zpow_add_one₀ two_ne_zero]
  ring

theorem Proper.finer_le (hf : f.Proper) {i j : ℤ} (finer : i < j) :
    (2 : ℚ) ^ f.precision * 2 ^ i ≤ 2 ^ (f.precision - 1) * 2 ^ j := by
  rw [hf.double_mantissa]
  gcongr
  · norm_num
  · exact finer

theorem Scale.of_full {q : ℚ} {e : ℤ} (lt : q < 2 ^ f.precision * 2 ^ e)
    (full : 2 ^ (f.precision - 1) * 2 ^ e ≤ q) : f.Scale q (max e f.minExponent) := by
  refine ⟨le_max_right _ _, lt.trans_le ?_, ?_⟩
  · gcongr
    · norm_num
    · exact le_max_left _ _
  · rcases le_total e f.minExponent with h | h
    · exact .inl (max_eq_right h)
    · rw [max_eq_left h]
      exact .inr full

theorem Scale.unique (hf : f.Proper) {q : ℚ} {i j : ℤ} (hi : f.Scale q i) (hj : f.Scale q j) :
    i = j := by
  have hle : ∀ {i j : ℤ}, f.Scale q i → f.Scale q j → j ≤ i := by
    intro i j hi hj
    by_contra! finer
    have hfull := hj.full.resolve_left (hi.least.trans_lt finer).ne'
    exact absurd hi.lt ((hf.finer_le finer).trans hfull).not_gt
  exact le_antisymm (hle hj hi) (hle hi hj)

theorem exponentFor_scale (hf : f.Proper) {num den : ℕ} (hnum : 0 < num) (hden : 0 < den) :
    f.Scale (num / den) (f.exponentFor num den) := by
  have hpos : (0 : ℚ) < den := by exact_mod_cast hden
  have hnumLow : (2 : ℚ) ^ num.log2 ≤ num := by exact_mod_cast Nat.log2_self_le hnum.ne'
  have hnumHigh : (num : ℚ) < 2 ^ (num.log2 + 1) := by exact_mod_cast Nat.lt_log2_self
  have hdenLow : (2 : ℚ) ^ den.log2 ≤ den := by exact_mod_cast Nat.log2_self_le hden.ne'
  have hdenHigh : (den : ℚ) < 2 ^ (den.log2 + 1) := by exact_mod_cast Nat.lt_log2_self
  set guess : ℤ := (num.log2 : ℤ) - den.log2 - f.precision + 1 with hguess
  -- the guess is right or one too large
  have hhigh : (num : ℚ) / den < 2 ^ f.precision * 2 ^ guess := by
    have hpow : (2 : ℚ) ^ f.precision * 2 ^ guess * 2 ^ den.log2 = 2 ^ (num.log2 + 1) :=
      two_pow_mul (by omega)
    rw [div_lt_iff₀ hpos]
    calc (num : ℚ) < 2 ^ f.precision * 2 ^ guess * 2 ^ den.log2 := hpow ▸ hnumHigh
      _ ≤ 2 ^ f.precision * 2 ^ guess * den := by gcongr
  have hlow : 2 ^ (f.precision - 1) * 2 ^ (guess - 1) ≤ (num : ℚ) / den := by
    have hpow : (2 : ℚ) ^ (f.precision - 1) * 2 ^ (guess - 1) * 2 ^ (den.log2 + 1) =
        2 ^ num.log2 := by
      have hprecision := hf.precision
      exact two_pow_mul (by omega)
    rw [le_div_iff₀ hpos]
    calc 2 ^ (f.precision - 1) * 2 ^ (guess - 1) * (den : ℚ)
        ≤ 2 ^ (f.precision - 1) * 2 ^ (guess - 1) * 2 ^ (den.log2 + 1) := by gcongr
      _ ≤ num := hpow ▸ hnumLow
  have htest : (scaleDown 2 num den guess).1 / (scaleDown 2 num den guess).2 <
      2 ^ (f.precision - 1) ↔ (num : ℚ) / den < 2 ^ (f.precision - 1) * 2 ^ guess := by
    have hscaled : (0 : ℚ) < (scaleDown 2 num den guess).2 := by
      exact_mod_cast scaleDown_pos two_pos hden guess
    have hvalue := scaleDown_eq 2 num den guess
    rw [Nat.cast_two] at hvalue
    rw [Nat.div_lt_iff_lt_mul (scaleDown_pos two_pos hden guess), ← div_lt_iff₀ (by positivity),
      ← hvalue, div_lt_iff₀ hscaled]
    exact_mod_cast Iff.rfl
  simp only [exponentFor, Nat.pow_eq, ← hguess, htest]
  split_ifs with hshort
  · refine Scale.of_full ?_ hlow
    rwa [hf.double_mantissa, sub_add_cancel]
  · exact Scale.of_full hhigh (not_lt.mp hshort)

/-! ## Rounding to a scale -/

/-- The multiples of powers of two that have a mantissa of the format and are fine enough for it;
how large they may be is left open. -/
def Grid (f : FloatFormat) (q : ℚ) : Prop :=
  ∃ (k : ℕ) (j : ℤ), k < 2 ^ f.precision ∧ f.minExponent ≤ j ∧ q = k * 2 ^ j

/-- The least quantity above all numbers of a format. -/
def top (f : FloatFormat) : ℚ := 2 ^ f.precision * 2 ^ f.maxExponent

/-- The quantities that a format has a number for. -/
def Has (f : FloatFormat) (q : ℚ) : Prop := f.Grid q ∧ q < f.top

lemma grid_zero : f.Grid 0 := ⟨0, f.minExponent, Nat.pow_pos two_pos, le_rfl, by simp⟩

theorem has_natCast (hf : f.Proper) {n : ℕ} (hn : n < 2 ^ f.precision) : f.Has n := by
  refine ⟨⟨n, 0, hn, hf.least, by simp⟩, ?_⟩
  have hlt : (n : ℚ) < 2 ^ f.precision := by exact_mod_cast hn
  exact hlt.trans_le (le_mul_of_one_le_right (by positivity)
    (one_le_zpow₀ one_le_two hf.greatest))

theorem has_one (hf : f.Proper) : f.Has 1 := by
  have h := has_natCast hf (Nat.one_lt_two_pow hf.precision.ne')
  rwa [Nat.cast_one] at h

/-- Whether a mantissa is nearest to a quantity at a scale of it. -/
structure Rounded (f : FloatFormat) (q : ℚ) (m : ℕ) (e : ℤ) : Prop where
  scale : f.Scale q e
  near : Nearest (q / 2 ^ e) m

namespace Rounded

variable {q g : ℚ} {m k : ℕ} {e j : ℤ}

theorem full (h : f.Rounded q m e) (he : e ≠ f.minExponent) : 2 ^ (f.precision - 1) ≤ m := by
  have hfull := h.scale.full.resolve_left he
  rw [← le_div_iff₀ (by positivity)] at hfull
  exact h.near.le (by exact_mod_cast hfull)

theorem mantissa_le (h : f.Rounded q m e) : m ≤ 2 ^ f.precision := by
  have hlt := h.scale.lt
  rw [← div_lt_iff₀ (by positivity)] at hlt
  exact h.near.ge (by exact_mod_cast hlt.le)

theorem finer_le_quantity (hf : f.Proper) (h : f.Rounded q m e) (hj : f.minExponent ≤ j)
    (finer : j < e) : 2 ^ f.precision * 2 ^ j ≤ q :=
  (hf.finer_le finer).trans (h.scale.full.resolve_left (hj.trans_lt finer).ne')

theorem finer_le (hf : f.Proper) (h : f.Rounded q m e) (hj : f.minExponent ≤ j) (finer : j < e) :
    (2 : ℚ) ^ f.precision * 2 ^ j ≤ m * 2 ^ e := by
  have hfull : (2 : ℚ) ^ (f.precision - 1) ≤ m := by
    exact_mod_cast h.full (hj.trans_lt finer).ne'
  calc (2 : ℚ) ^ f.precision * 2 ^ j ≤ 2 ^ (f.precision - 1) * 2 ^ e := hf.finer_le finer
    _ ≤ m * 2 ^ e := by gcongr

theorem shift (k n : ℕ) (e : ℤ) : (k : ℚ) * 2 ^ (e + n) = (k * 2 ^ n : ℕ) * 2 ^ e := by
  rw [zpow_add₀ two_ne_zero, zpow_natCast]
  push_cast
  ring

theorem ge (hf : f.Proper) (h : f.Rounded q m e) (hg : f.Grid g) (hle : g ≤ q) :
    g ≤ m * 2 ^ e := by
  obtain ⟨k, j, hk, hj, rfl⟩ := hg
  rcases le_or_gt e j with coarser | finer
  · obtain ⟨n, rfl⟩ := Int.le.dest coarser
    rw [shift] at hle ⊢
    rw [← le_div_iff₀ (by positivity)] at hle
    have hm : ((k * 2 ^ n : ℕ) : ℚ) ≤ m := by exact_mod_cast h.near.le hle
    gcongr
  · have hk' : (k : ℚ) ≤ 2 ^ f.precision := by exact_mod_cast hk.le
    calc (k : ℚ) * 2 ^ j ≤ 2 ^ f.precision * 2 ^ j := by gcongr
      _ ≤ m * 2 ^ e := h.finer_le hf hj finer

theorem le (hf : f.Proper) (h : f.Rounded q m e) (hg : f.Grid g) (hle : q ≤ g) :
    m * 2 ^ e ≤ g := by
  obtain ⟨k, j, hk, hj, rfl⟩ := hg
  rcases le_or_gt e j with coarser | finer
  · obtain ⟨n, rfl⟩ := Int.le.dest coarser
    rw [shift] at hle ⊢
    rw [← div_le_iff₀ (by positivity)] at hle
    have hm : (m : ℚ) ≤ (k * 2 ^ n : ℕ) := by exact_mod_cast h.near.ge hle
    gcongr
  · have hlt : (k : ℚ) * 2 ^ j < 2 ^ f.precision * 2 ^ j := by
      gcongr
      exact_mod_cast hk
    exact absurd ((h.finer_le_quantity hf hj finer).trans hle) hlt.not_ge

/-- From the middle between a full mantissa and the next on, an odd one is left behind. -/
theorem succ_le (hf : f.Proper) (h : f.Rounded q m e) (hfull : 2 ^ (f.precision - 1) ≤ k)
    (hk : k < 2 ^ f.precision) (hj : f.minExponent ≤ j) (hodd : ¬Even k)
    (hle : (k + 1 / 2) * 2 ^ j ≤ q) : (k + 1) * 2 ^ j ≤ (m : ℚ) * 2 ^ e := by
  rcases lt_trichotomy e j with coarser | rfl | finer
  · have hlt : (k : ℚ) * 2 ^ j < 2 ^ (f.precision - 1) * 2 ^ j := by
      calc (k : ℚ) * 2 ^ j ≤ (k + 1 / 2) * 2 ^ j := by gcongr; norm_num
        _ ≤ q := hle
        _ < 2 ^ f.precision * 2 ^ e := h.scale.lt
        _ ≤ 2 ^ (f.precision - 1) * 2 ^ j := hf.finer_le coarser
    have hk' : (k : ℚ) < 2 ^ (f.precision - 1) := lt_of_mul_lt_mul_right hlt (by positivity)
    exact absurd hfull (not_le.mpr (by exact_mod_cast hk'))
  · rw [← le_div_iff₀ (by positivity)] at hle
    have hm : (k : ℚ) + 1 ≤ m := by exact_mod_cast h.near.succ_le hodd hle
    gcongr
  · have hk' : (k : ℚ) + 1 ≤ 2 ^ f.precision := by exact_mod_cast hk
    calc ((k : ℚ) + 1) * 2 ^ j ≤ 2 ^ f.precision * 2 ^ j := by gcongr
      _ ≤ m * 2 ^ e := h.finer_le hf hj finer

/-- Before the middle between a full mantissa and the next, the first is not exceeded. -/
theorem le_of_lt (hf : f.Proper) (h : f.Rounded q m e) (hfull : 2 ^ (f.precision - 1) ≤ k)
    (hk : k < 2 ^ f.precision) (hj : f.minExponent ≤ j) (hlt : q < (k + 1 / 2) * 2 ^ j) :
    (m : ℚ) * 2 ^ e ≤ k * 2 ^ j := by
  rcases lt_trichotomy e j with coarser | rfl | finer
  · have hm : (m : ℚ) ≤ 2 ^ f.precision := by exact_mod_cast h.mantissa_le
    have hk' : (2 : ℚ) ^ (f.precision - 1) ≤ k := by exact_mod_cast hfull
    calc (m : ℚ) * 2 ^ e ≤ 2 ^ f.precision * 2 ^ e := by gcongr
      _ ≤ 2 ^ (f.precision - 1) * 2 ^ j := hf.finer_le coarser
      _ ≤ k * 2 ^ j := by gcongr
  · rw [← div_lt_iff₀ (by positivity)] at hlt
    have hm : (m : ℚ) ≤ k := by exact_mod_cast h.near.le_of_lt hlt
    gcongr
  · have hk' : (k : ℚ) + 1 ≤ 2 ^ f.precision := by exact_mod_cast hk
    have hge : q < 2 ^ f.precision * 2 ^ j := by
      calc q < (k + 1 / 2) * 2 ^ j := hlt
        _ ≤ (k + 1) * 2 ^ j := by gcongr; norm_num
        _ ≤ 2 ^ f.precision * 2 ^ j := by gcongr
    exact absurd (h.finer_le_quantity hf hj finer) hge.not_ge

end Rounded

end FloatFormat

/-! ## Values -/

namespace Floating

/-- Whether a number is finite, not negative, and has a value. -/
def Is (x : Floating) (q : ℚ) : Prop := ∃ m e, x = .finite false m e ∧ (m : ℚ) * 2 ^ e = q

/-- Whether a number is at least a quantity, as the positive infinity is of each. -/
def AtLeast (x : Floating) (q : ℚ) : Prop := x = .infinite false ∨ ∃ v, x.Is v ∧ q ≤ v

/-- Whether a number has a value that is at most a quantity. -/
def AtMost (x : Floating) (q : ℚ) : Prop := ∃ v, x.Is v ∧ v ≤ q

variable {x : Floating} {q g : ℚ}

theorem Is.nonneg (h : x.Is q) : 0 ≤ q := by
  obtain ⟨m, e, -, rfl⟩ := h
  positivity

theorem mantissa_ne_zero {m : ℕ} {e : ℤ} (h : (m : ℚ) * 2 ^ e ≠ 0) : m ≠ 0 := by
  rintro rfl
  simp at h

theorem Is.unique {r : ℚ} (hq : x.Is q) (hr : x.Is r) : q = r := by
  obtain ⟨m, e, rfl, rfl⟩ := hq
  obtain ⟨n, j, heq, rfl⟩ := hr
  cases heq
  rfl

theorem Is.ne_infinite (h : x.Is q) : x ≠ .infinite false := by
  obtain ⟨m, e, rfl, -⟩ := h
  nofun

lemma AtLeast.mono (h : x.AtLeast q) (hg : g ≤ q) : x.AtLeast g :=
  h.imp_right fun ⟨v, is, hv⟩ => ⟨v, is, hg.trans hv⟩

lemma Is.atLeast (h : x.Is q) : x.AtLeast q := .inr ⟨q, h, le_rfl⟩

theorem AtLeast.le {v : ℚ} (h : x.AtLeast q) (is : x.Is v) : q ≤ v := by
  obtain ⟨w, is', hw⟩ := h.resolve_left is.ne_infinite
  rwa [is.unique is']

theorem AtLeast.is (h : x.AtLeast q) (hle : x.AtMost q) : x.Is q := by
  obtain ⟨v, is, hv⟩ := hle
  rwa [le_antisymm (h.le is) hv]

end Floating

namespace FloatFormat

variable {f : FloatFormat}

/-- Whether a number is what a format has for a quantity: nothing on the grid of the format lies
between the two, from the middle on an odd mantissa gives way to the next, and a quantity out of
range is infinite. -/
structure Rounds (f : FloatFormat) (q : ℚ) (x : Floating) : Prop where
  atLeast : ∀ {g}, f.Grid g → g ≤ q → x.AtLeast g
  atMost : ∀ {g}, f.Has g → q ≤ g → x.AtMost g
  beyond : f.top ≤ q → x = .infinite false
  succ_le : ∀ {k : ℕ} {j : ℤ}, 2 ^ (f.precision - 1) ≤ k → k < 2 ^ f.precision →
    f.minExponent ≤ j → ¬Even k → (k + 1 / 2) * 2 ^ j ≤ q → x.AtLeast ((k + 1) * 2 ^ j)
  le_of_lt : ∀ {k : ℕ} {j : ℤ}, 2 ^ (f.precision - 1) ≤ k → k < 2 ^ f.precision →
    f.minExponent ≤ j → k * 2 ^ j < f.top → q < (k + 1 / 2) * 2 ^ j → x.AtMost (k * 2 ^ j)

/-- Whether a number has a value, with the mantissa and the exponent that the format has for it. -/
def Holds (f : FloatFormat) (x : Floating) (q : ℚ) : Prop :=
  ∃ m e, x = .finite false m e ∧ (m : ℚ) * 2 ^ e = q ∧ f.Scale q e

theorem Holds.is {x : Floating} {q : ℚ} (h : f.Holds x q) : x.Is q :=
  let ⟨m, e, hx, hq, _⟩ := h
  ⟨m, e, hx, hq⟩

theorem Holds.unique (hf : f.Proper) {x y : Floating} {q : ℚ} (hx : f.Holds x q)
    (hy : f.Holds y q) : x = y := by
  obtain ⟨m, e, rfl, hm, he⟩ := hx
  obtain ⟨n, j, rfl, hn, hj⟩ := hy
  obtain rfl := he.unique hf hj
  have hmn : (m : ℚ) = n := mul_right_cancel₀ (by positivity : (2 : ℚ) ^ e ≠ 0) (hm.trans hn.symm)
  rw [Nat.cast_injective hmn]

theorem Rounded.holds {q : ℚ} {m : ℕ} {e : ℤ} (h : f.Rounded q m e) (hm : m < 2 ^ f.precision) :
    f.Holds (.finite false m e) (m * 2 ^ e) := by
  have hlt : (m : ℚ) < 2 ^ f.precision := by exact_mod_cast hm
  refine ⟨m, e, rfl, rfl, h.scale.least, by gcongr, or_iff_not_imp_left.mpr fun hleast => ?_⟩
  have hfull : (2 : ℚ) ^ (f.precision - 1) ≤ m := by exact_mod_cast h.full hleast
  gcongr

theorem Rounded.holds_carry (hf : f.Proper) {q : ℚ} {e : ℤ} (h : f.Rounded q (2 ^ f.precision) e) :
    f.Holds (.finite false (2 ^ (f.precision - 1)) (e + 1)) ((2 ^ f.precision : ℕ) * 2 ^ e) := by
  have hshorter : (2 : ℚ) ^ (f.precision - 1) < 2 ^ f.precision :=
    pow_lt_pow_right₀ one_lt_two (Nat.sub_lt hf.precision one_pos)
  push_cast
  rw [hf.double_mantissa]
  exact ⟨_, _, rfl, by push_cast; rfl, h.scale.least.trans (lt_add_one e).le, by gcongr,
    .inr le_rfl⟩

theorem rounded_zero (f : FloatFormat) : f.Rounded 0 0 f.minExponent where
  scale := ⟨le_rfl, by positivity, .inl rfl⟩
  near := ⟨by norm_num, by norm_num, fun _ => Even.zero⟩

theorem rounded_quotient (hf : f.Proper) {num den : ℕ} (hnum : 0 < num) (hden : 0 < den) {e : ℤ}
    (he : f.exponentFor num den = e) :
    f.Rounded (num / den) (roundDiv (scaleDown 2 num den e).1 (scaleDown 2 num den e).2) e := by
  have hscaled := scaleDown_eq 2 num den e
  rw [Nat.cast_two] at hscaled
  refine ⟨he ▸ exponentFor_scale hf hnum hden, ?_⟩
  rw [← hscaled]
  exact roundDiv_nearest _ (scaleDown_pos two_pos hden e)

/-- A rounded mantissa is kept, or it is out of range. -/
theorem round_cases (hf : f.Proper) (num : ℕ) {den : ℕ} (hden : 0 < den) :
    ∃ m e, f.Rounded (num / den) m e ∧
      (f.round false num den = .infinite false ∧ f.top ≤ m * 2 ^ e ∨
        f.Holds (f.round false num den) (m * 2 ^ e) ∧ m * 2 ^ e < f.top) := by
  rcases Nat.eq_zero_or_pos num with rfl | hnum
  · have htop : 0 < f.top := by unfold top; positivity
    refine ⟨0, f.minExponent, by simpa using f.rounded_zero, .inr ⟨?_, by simpa using htop⟩⟩
    simpa [FloatFormat.round] using f.rounded_zero.holds (Nat.pow_pos two_pos)
  have rounded := rounded_quotient hf hnum hden rfl
  set e := f.exponentFor num den with he
  set m := roundDiv (scaleDown 2 num den e).1 (scaleDown 2 num den e).2 with hm
  have hround : f.round false num den =
      if m = 2 ^ f.precision then
        if f.maxExponent < e + 1 then .infinite false
        else .finite false (2 ^ (f.precision - 1)) (e + 1)
      else if f.maxExponent < e then .infinite false else .finite false m e := by
    simp only [FloatFormat.round, if_neg hnum.ne', Nat.pow_eq, ← he, ← hm]
    split_ifs <;> rfl
  refine ⟨m, e, rounded, ?_⟩
  rw [hround, top]
  split_ifs with carry beyond beyond
  · refine .inl ⟨rfl, ?_⟩
    rw [carry]
    push_cast
    gcongr
    · norm_num
    · exact Int.lt_add_one_iff.mp beyond
  · rw [carry] at rounded ⊢
    refine .inr ⟨rounded.holds_carry hf, ?_⟩
    push_cast
    gcongr
    · norm_num
    · exact not_lt.mp beyond
  · refine .inl ⟨rfl, ?_⟩
    have hfull : (2 : ℚ) ^ (f.precision - 1) ≤ m := by
      exact_mod_cast rounded.full (hf.exponents.trans_lt beyond).ne'
    calc (2 : ℚ) ^ f.precision * 2 ^ f.maxExponent ≤ 2 ^ (f.precision - 1) * 2 ^ e :=
          hf.finer_le beyond
      _ ≤ m * 2 ^ e := by gcongr
  · have hm : m < 2 ^ f.precision := rounded.mantissa_le.lt_of_ne carry
    refine .inr ⟨rounded.holds hm, ?_⟩
    calc (m : ℚ) * 2 ^ e < 2 ^ f.precision * 2 ^ e := by
          gcongr
          exact_mod_cast hm
      _ ≤ 2 ^ f.precision * 2 ^ f.maxExponent := by
        gcongr
        · norm_num
        · exact not_lt.mp beyond

/-- The top is on the grid, though no number of the format has it for a value. -/
theorem grid_top (hf : f.Proper) : f.Grid f.top := by
  refine ⟨2 ^ (f.precision - 1), f.maxExponent + 1, ?_, ?_, ?_⟩
  · exact Nat.pow_lt_pow_right one_lt_two (Nat.sub_lt hf.precision one_pos)
  · exact hf.exponents.trans (lt_add_one _).le
  · push_cast
    exact hf.double_mantissa _

theorem rounds_round (hf : f.Proper) (num : ℕ) {den : ℕ} (hden : 0 < den) :
    f.Rounds (num / den) (f.round false num den) := by
  obtain ⟨m, e, rounded, hcases⟩ := round_cases hf num hden
  have hleast : ∀ {g : ℚ}, g ≤ m * 2 ^ e → (f.round false num den).AtLeast g :=
    fun hg => hcases.imp And.left fun h => ⟨_, h.1.is, hg⟩
  have hmost : ∀ {g : ℚ}, g < f.top → m * 2 ^ e ≤ g → (f.round false num den).AtMost g :=
    fun hlt hg => hcases.elim (fun h => absurd (h.2.trans hg) hlt.not_ge) fun h => ⟨_, h.1.is, hg⟩
  refine ⟨fun hg hle => hleast (rounded.ge hf hg hle), fun hg hle =>
    hmost hg.2 (rounded.le hf hg.1 hle), fun htop => ?_, fun hfull hk hj hodd hle =>
    hleast (rounded.succ_le hf hfull hk hj hodd hle), fun hfull hk hj hlt hle =>
    hmost hlt (rounded.le_of_lt hf hfull hk hj hle)⟩
  have hvalue := rounded.ge hf (grid_top hf) htop
  exact hcases.elim And.left fun h => absurd hvalue h.2.not_ge

/-! ## Operations -/

theorem roundScaled_eq (f : FloatFormat) (m : ℕ) (e : ℤ) : ∃ num den : ℕ, 0 < den ∧
    (num : ℚ) / den = m * 2 ^ e ∧ f.roundScaled false m e = f.round false num den := by
  unfold roundScaled
  split_ifs with h
  · obtain ⟨n, rfl⟩ := Int.eq_ofNat_of_zero_le h
    exact ⟨m * 2 ^ n, 1, one_pos, by simp, rfl⟩
  · obtain ⟨n, rfl⟩ : ∃ n : ℕ, e = -n := ⟨(-e).toNat, by omega⟩
    exact ⟨m, 2 ^ n, Nat.pow_pos two_pos, by simp [div_eq_mul_inv], by simp⟩

theorem rounds_roundScaled (hf : f.Proper) (m : ℕ) (e : ℤ) :
    f.Rounds (m * 2 ^ e) (f.roundScaled false m e) := by
  obtain ⟨num, den, hden, hvalue, heq⟩ := f.roundScaled_eq m e
  rw [heq, ← hvalue]
  exact rounds_round hf num hden

lemma rounds_ofNat (hf : f.Proper) (n : ℕ) : f.Rounds n (f.ofNat n) := by
  simpa [ofNat] using rounds_round hf n one_pos

variable {x y : Floating} {a b : ℚ}

theorem rounds_mul (hf : f.Proper) (hx : x.Is a) (hy : y.Is b) : f.Rounds (a * b) (f.mul x y) := by
  obtain ⟨m, e, rfl, rfl⟩ := hx
  obtain ⟨n, j, rfl, rfl⟩ := hy
  have hvalue : (m : ℚ) * 2 ^ e * (n * 2 ^ j) = (m * n : ℕ) * 2 ^ (e + j) := by
    rw [zpow_add₀ two_ne_zero]
    push_cast
    ring
  rw [hvalue]
  exact rounds_roundScaled hf _ _

theorem rounds_div (hf : f.Proper) (hx : x.Is a) (hy : y.Is b) (hb : b ≠ 0) :
    f.Rounds (a / b) (f.div x y) := by
  obtain ⟨m, e, rfl, rfl⟩ := hx
  obtain ⟨n, j, rfl, rfl⟩ := hy
  have hn := Floating.mantissa_ne_zero hb
  have hvalue : (m : ℚ) * 2 ^ e / (n * 2 ^ j) = m / n * 2 ^ (e - j) := by
    rw [zpow_sub₀ two_ne_zero]
    field_simp
  rw [hvalue]
  simp only [div, if_neg hn, bne_self_eq_false]
  generalize e - j = d
  split_ifs with h
  · obtain ⟨k, rfl⟩ := Int.eq_ofNat_of_zero_le h
    have hrounds := rounds_round hf (m * 2 ^ k) (Nat.pos_of_ne_zero hn)
    simpa [div_mul_eq_mul_div] using hrounds
  · obtain ⟨k, rfl⟩ : ∃ k : ℕ, d = -k := ⟨(-d).toNat, by omega⟩
    have hden : 0 < n * 2 ^ k := Nat.mul_pos (Nat.pos_of_ne_zero hn) (Nat.pow_pos two_pos)
    rw [zpow_neg, zpow_natCast, ← div_eq_mul_inv, div_div]
    simpa using rounds_round hf m hden

theorem rounds_add (hf : f.Proper) (hx : x.Is a) (hy : y.Is b) : f.Rounds (a + b) (f.add x y) := by
  obtain ⟨m, e, rfl, rfl⟩ := hx
  obtain ⟨n, j, rfl, rfl⟩ := hy
  have hshift : ∀ (k : ℕ) {i low : ℤ}, low ≤ i →
      (k : ℚ) * 2 ^ i = (k * 2 ^ (i - low).toNat : ℕ) * 2 ^ low := by
    intro k i low hlow
    rw [← Rounded.shift, Int.toNat_of_nonneg (sub_nonneg.mpr hlow), add_sub_cancel]
  rw [hshift m (min_le_left e j), hshift n (min_le_right e j), ← add_mul, ← Nat.cast_add]
  simp only [add, Nat.pow_eq, Bool.false_eq_true, if_false, Bool.and_self]
  generalize m * 2 ^ (e - min e j).toNat = s
  generalize n * 2 ^ (j - min e j).toNat = t
  have hsign : (if ((s : ℤ) + t) = 0 then false else decide ((s : ℤ) + t < 0)) = false := by
    split_ifs
    · rfl
    · exact decide_eq_false (by omega)
  rw [hsign, ← Nat.cast_add, Int.natAbs_natCast]
  exact rounds_roundScaled hf _ _

lemma Rounds.exact (h : f.Rounds a x) (ha : f.Has a) : x.Is a :=
  (h.atLeast ha.1 le_rfl).is (h.atMost ha le_rfl)

lemma ofNat_is (hf : f.Proper) {n : ℕ} (hn : n < 2 ^ f.precision) : (f.ofNat n).Is n :=
  (rounds_ofNat hf n).exact (has_natCast hf hn)

theorem ofNat_one (hf : f.Proper) : (f.ofNat 1).Is 1 := by
  have h := ofNat_is hf (Nat.one_lt_two_pow hf.precision.ne')
  rwa [Nat.cast_one] at h

/-! ### Infinite operands -/

theorem mul_infinite_left (hx : x.AtLeast a) (ha : 0 < a) :
    f.mul (.infinite false) x = .infinite false := by
  rcases hx with rfl | ⟨v, ⟨m, e, rfl, rfl⟩, hle⟩
  · rfl
  · have hm := Floating.mantissa_ne_zero (ha.trans_le hle).ne'
    simp [mul, hm]

theorem mul_infinite_right (hx : x.AtLeast a) (ha : 0 < a) :
    f.mul x (.infinite false) = .infinite false := by
  rcases hx with rfl | ⟨v, ⟨m, e, rfl, rfl⟩, hle⟩
  · rfl
  · have hm := Floating.mantissa_ne_zero (ha.trans_le hle).ne'
    simp [mul, hm]

theorem mul_cases (hf : f.Proper) (hx : x.AtLeast a) (hy : y.AtLeast b) (ha : 0 < a) (hb : 0 < b) :
    f.mul x y = .infinite false ∨ ∃ q, a * b ≤ q ∧ f.Rounds q (f.mul x y) := by
  rcases hx with rfl | ⟨v, hv, hav⟩
  · exact .inl (mul_infinite_left hy hb)
  · rcases hy with rfl | ⟨w, hw, hbw⟩
    · exact .inl (mul_infinite_right (hv.atLeast.mono hav) ha)
    · exact .inr ⟨v * w, mul_le_mul hav hbw hb.le hv.nonneg, rounds_mul hf hv hw⟩

theorem mul_atLeast (hf : f.Proper) (hx : x.AtLeast a) (hy : y.AtLeast b) (ha : 0 < a) (hb : 0 < b)
    {g : ℚ} (hg : f.Grid g) (hle : g ≤ a * b) : (f.mul x y).AtLeast g :=
  (mul_cases hf hx hy ha hb).elim .inl fun ⟨_, hq, rounds⟩ => rounds.atLeast hg (hle.trans hq)

theorem mul_beyond (hf : f.Proper) (hx : x.AtLeast a) (hy : y.AtLeast b) (ha : 0 < a) (hb : 0 < b)
    (htop : f.top ≤ a * b) : f.mul x y = .infinite false :=
  (mul_cases hf hx hy ha hb).elim id fun ⟨_, hq, rounds⟩ => rounds.beyond (htop.trans hq)

theorem div_atLeast_zero (hf : f.Proper) (hx : x.Is a) (hy : y.AtLeast b) (hb : 0 < b) :
    (f.div x y).AtLeast 0 := by
  rcases hy with rfl | ⟨w, hw, hbw⟩
  · obtain ⟨m, e, rfl, -⟩ := hx
    exact .inr ⟨0, ⟨0, f.minExponent, rfl, by simp⟩, le_rfl⟩
  · have hpos := hb.trans_le hbw
    exact (rounds_div hf hx hw hpos.ne').atLeast grid_zero (div_nonneg hx.nonneg hpos.le)

theorem add_atLeast (hf : f.Proper) (hx : x.AtLeast a) (hy : y.Is b) {g : ℚ} (hg : f.Grid g)
    (hle : g ≤ a + b) : (f.add x y).AtLeast g := by
  rcases hx with rfl | ⟨v, hv, hav⟩
  · obtain ⟨m, e, rfl, -⟩ := hy
    exact .inl rfl
  · exact (rounds_add hf hv hy).atLeast hg (hle.trans (by gcongr))

end FloatFormat

end SiteSpiders.Number

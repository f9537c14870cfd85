import Mathlib.Logic.Function.Iterate
import SiteSpiders.Proofs.Number.Rounding
import SiteSpiders.Retry.Policy

/-!
# Powers of factors

The powers of a factor in single precision. Those of one are one, to whatever exponent. Any other
factor above one is at least the number next to one, and that far from one it takes thirty squares
to leave the range of the format.
-/
namespace SiteSpiders.Retry

open Number FloatFormat

variable {a r : Floating}

theorem powerLoop_closed {P : Floating → Prop} (hmul : ∀ x y, P x → P y → P (single.mul x y))
    (n : ℕ) (ha : P a) (hr : P r) : P (powerLoop a r n) := by
  have hstep : ∀ {r}, P r → ∀ n a, P a → P (if n % 2 = 1 then single.mul r a else r) := by
    intro r hr n a ha
    split_ifs
    · exact hmul _ _ hr ha
    · exact hr
  fun_induction powerLoop a r n with
  | case1 a r n s last => exact hstep hr n a ha
  | case2 a r n s more ih => exact ih (hmul _ _ ha ha) (hstep hr n a ha)

theorem powerLoop_one (n : ℕ) (ha : a.Is 1) (hr : r.Is 1) : (powerLoop a r n).Is 1 := by
  refine powerLoop_closed (P := fun x => x.Is 1) (fun x y hx hy => ?_) n ha hr
  have hrounds := rounds_mul single_proper hx hy
  rw [mul_one] at hrounds
  exact hrounds.exact (has_one single_proper)

theorem powerLoop_atLeast (n : ℕ) (ha : a.AtLeast 1) (hr : r.AtLeast 1) :
    (powerLoop a r n).AtLeast 1 :=
  powerLoop_closed (P := fun x => x.AtLeast 1) (fun _ _ hx hy =>
    mul_atLeast single_proper hx hy one_pos one_pos (has_one single_proper).1 (by norm_num)) n ha hr

theorem power_atLeast (ha : a.AtLeast 1) (n : ℤ) : (power a n).AtLeast 0 := by
  have hloop := powerLoop_atLeast n.natAbs ha (ofNat_one single_proper).atLeast
  simp only [power]
  split_ifs with negative
  · exact div_atLeast_zero single_proper (ofNat_one single_proper) hloop one_pos
  · exact hloop.mono zero_le_one

theorem power_one (ha : a.Is 1) (n : ℤ) : (power a n).Is 1 := by
  have hloop := powerLoop_one n.natAbs ha (ofNat_one single_proper)
  simp only [power]
  split_ifs with negative
  · have hrounds := rounds_div single_proper (ofNat_one single_proper) hloop one_ne_zero
    rw [div_one] at hrounds
    exact hrounds.exact (has_one single_proper)
  · exact hloop

/-! ## Powers of two as exponents -/

/-- The square of a number in single precision. -/
def square (a : Floating) : Floating := single.mul a a

theorem powerLoop_two_pow (a r : Floating) (k : ℕ) :
    powerLoop a r (2 ^ k) = single.mul r (square^[k] a) := by
  induction k generalizing a with
  | zero => simp [powerLoop]
  | succ k ih =>
    have hmod : 2 ^ (k + 1) % 2 = 0 := by simp [Nat.pow_succ]
    have hdiv : 2 ^ (k + 1) / 2 = 2 ^ k := by simp [Nat.pow_succ]
    have hpos : 2 ^ k ≠ 0 := by positivity
    rw [powerLoop, hmod, hdiv, if_neg hpos, if_neg zero_ne_one, Function.iterate_succ_apply]
    exact ih _

/-- Near one, a square is about twice as far from it. -/
theorem iterate_square_two {n : ℕ} (hn : n ≤ 23) (ha : a.AtLeast (1 + 2 ^ (-n : ℤ))) :
    (square^[n] a).AtLeast 2 := by
  induction n generalizing a with
  | zero => exact ha.mono (by norm_num)
  | succ n ih =>
    have hgrid : single.Grid (1 + 2 ^ (-n : ℤ)) := by
      refine ⟨2 ^ n + 1, -n, ?_, ?_, ?_⟩
      · have hpow : 2 ^ n ≤ 2 ^ 22 := Nat.pow_le_pow_right two_pos (by omega)
        exact Nat.lt_of_le_of_lt (Nat.add_le_add_right hpow 1) (by decide)
      · simp only [single]
        omega
      · rw [zpow_neg, zpow_natCast]
        push_cast
        field_simp
    have hhalf : (2 : ℚ) ^ (-n : ℤ) = 2 * 2 ^ (-(n + 1 : ℕ) : ℤ) := by
      rw [← zpow_one_add₀ two_ne_zero]
      congr 1
      push_cast
      ring
    rw [Function.iterate_succ_apply]
    refine ih (by omega) (mul_atLeast single_proper ha ha (by positivity) (by positivity) hgrid ?_)
    rw [hhalf]
    generalize (2 : ℚ) ^ (-(n + 1 : ℕ) : ℤ) = t
    linarith [mul_self_nonneg t]

/-- From two on, the exponent of the power that a number has reached doubles with each square,
until it is out of range. -/
theorem iterate_square_infinite {n : ℕ} (hn : n ≤ 6) (ha : a.AtLeast (2 ^ 2 ^ (6 - n))) :
    square^[n + 1] a = .infinite false := by
  induction n generalizing a with
  | zero =>
    exact mul_beyond single_proper ha ha (by positivity) (by positivity) (by norm_num [top, single])
  | succ n ih =>
    have hexponent : 2 ^ (6 - n) = 2 ^ (6 - (n + 1)) + 2 ^ (6 - (n + 1)) := by
      rw [← two_mul, ← Nat.pow_succ']
      congr 1
      omega
    have hgrid : single.Grid (2 ^ 2 ^ (6 - n)) :=
      ⟨1, (2 ^ (6 - n) : ℕ), by decide, (by decide : single.minExponent ≤ 0).trans (by positivity),
        by rw [Nat.cast_one, one_mul, zpow_natCast]⟩
    rw [Function.iterate_succ_apply]
    refine ih (by omega) (mul_atLeast single_proper ha ha (by positivity) (by positivity) hgrid ?_)
    rw [hexponent, pow_add]

/-- The attempt at which the power of every factor above one is out of range. -/
def lateAttempt : ℕ := 2 ^ 30

theorem power_infinite (ha : a.AtLeast (1 + 2 ^ (-23 : ℤ))) :
    power a (attemptExponent lateAttempt) = .infinite false := by
  have hexponent : attemptExponent lateAttempt = (2 ^ 30 : ℕ) := by decide
  have htwo : (square^[23] a).AtLeast (2 ^ 2 ^ (6 - 6)) := by
    simpa using iterate_square_two le_rfl ha
  have hsquares : square^[30] a = .infinite false :=
    (Function.iterate_add_apply square 7 23 a).trans (iterate_square_infinite le_rfl htwo)
  have hpositive : ¬((2 ^ 30 : ℕ) : ℤ) < 0 := (Int.natCast_nonneg _).not_gt
  rw [hexponent, power]
  simp only [if_neg hpositive, Int.natAbs_natCast]
  rw [powerLoop_two_pow, hsquares]
  exact mul_infinite_right (ofNat_one single_proper).atLeast one_pos

/-- Between one and the next number of single precision there is none. -/
theorem next_after_one {q : ℚ} (grid : single.Grid q) (h : 1 < q) : 1 + 2 ^ (-23 : ℤ) ≤ q := by
  obtain ⟨k, j, hk, -, rfl⟩ := grid
  rcases le_or_gt 0 j with hj | hj
  · obtain ⟨n, rfl⟩ := Int.eq_ofNat_of_zero_le hj
    have htwo : (2 : ℚ) ≤ k * 2 ^ (n : ℤ) := by
      rw [zpow_natCast] at h ⊢
      exact_mod_cast h
    exact le_trans (by norm_num) htwo
  · obtain ⟨n, rfl⟩ : ∃ n : ℕ, j = -n := ⟨(-j).toNat, by omega⟩
    rw [zpow_neg, zpow_natCast, ← div_eq_mul_inv, lt_div_iff₀ (by positivity), one_mul] at h
    have hlt : 2 ^ n < k := by exact_mod_cast h
    have hn : n < 24 := (Nat.pow_lt_pow_iff_right one_lt_two).mp (hlt.trans hk)
    have hk' : (2 : ℚ) ^ n + 1 ≤ k := by exact_mod_cast hlt
    calc (1 : ℚ) + 2 ^ (-23 : ℤ) ≤ 1 + 2 ^ (-n : ℤ) := by
          gcongr
          · norm_num
          · omega
      _ = (2 ^ n + 1) * 2 ^ (-n : ℤ) := by
          rw [zpow_neg, zpow_natCast]
          field_simp
      _ ≤ k * 2 ^ (-n : ℤ) := by gcongr

end SiteSpiders.Retry

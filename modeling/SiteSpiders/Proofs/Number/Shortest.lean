import Mathlib.Data.Nat.Cast.Order.Field
import SiteSpiders.Proofs.Number.Rounding

/-!
# Decimals that read back

A double is written as a decimal to which it is the nearest double. Next to it there is always
such a decimal of seventeen digits, because neighbouring doubles are further apart than decimals
of that length. So the search for a short one never fails.
-/
namespace SiteSpiders.Number

theorem Nearest.abs_sub_le {x : ℚ} {m : ℕ} (h : Nearest x m) (k : ℕ) :
    |(m : ℚ) - x| ≤ |(k : ℚ) - x| := by
  have half : |(m : ℚ) - x| ≤ 1 / 2 :=
    abs_le.mpr ⟨by linarith [h.below], by linarith [h.above]⟩
  rcases lt_trichotomy k m with below | rfl | above
  · have hk : (k : ℚ) + 1 ≤ m := by exact_mod_cast below
    exact half.trans (le_abs.mpr (.inr (by linarith [h.above])))
  · rfl
  · have hk : (m : ℚ) + 1 ≤ k := by exact_mod_cast above
    exact half.trans (le_abs.mpr (.inl (by linarith [h.below])))

namespace FloatFormat

variable {f : FloatFormat} {v q g : ℚ}

/-- Whether a quantity is read as a value: the value is nearest to it among those of the format,
the even one of two. -/
def Reads (f : FloatFormat) (v q : ℚ) : Prop := ∃ m e, f.Rounded v m e ∧ (m : ℚ) * 2 ^ e = q

/-! ## Neighbours on the grid -/

theorem Rounded.grid (hf : f.Proper) {m : ℕ} {e : ℤ} (h : f.Rounded v m e) :
    f.Grid (m * 2 ^ e) := by
  rcases h.mantissa_le.lt_or_eq with hlt | rfl
  · exact ⟨m, e, hlt, h.scale.least, rfl⟩
  · refine ⟨2 ^ (f.precision - 1), e + 1, ?_, h.scale.least.trans (lt_add_one e).le, ?_⟩
    · exact Nat.pow_lt_pow_right one_lt_two (Nat.sub_lt hf.precision one_pos)
    · push_cast
      exact hf.double_mantissa e

/-- A rounded quantity is nearer than all others of the grid. -/
theorem Rounded.abs_sub_le (hf : f.Proper) {m : ℕ} {e : ℤ} (h : f.Rounded v m e)
    (hg : f.Grid g) : |m * 2 ^ e - v| ≤ |g - v| := by
  have hpos : (0 : ℚ) < 2 ^ e := by positivity
  have hscaled : ∀ k : ℕ, |(k : ℚ) * 2 ^ e - v| = |k - v / 2 ^ e| * 2 ^ e := by
    intro k
    calc |(k : ℚ) * 2 ^ e - v| = |(k - v / 2 ^ e) * 2 ^ e| := by
          rw [sub_mul, div_mul_cancel₀ _ hpos.ne']
      _ = |k - v / 2 ^ e| * 2 ^ e := by rw [abs_mul, abs_of_pos hpos]
  have onScale : ∀ k : ℕ, |(m : ℚ) * 2 ^ e - v| ≤ |(k : ℚ) * 2 ^ e - v| := by
    intro k
    rw [hscaled, hscaled]
    have hnear := h.near.abs_sub_le k
    gcongr
  obtain ⟨k, i, hk, hi, rfl⟩ := hg
  rcases le_or_gt e i with coarser | finer
  · obtain ⟨n, rfl⟩ := Int.le.dest coarser
    rw [shift]
    exact onScale _
  · -- what is finer lies below the shortest full mantissa
    have hfull := h.scale.full.resolve_left (hi.trans_lt finer).ne'
    have hbelow : (k : ℚ) * 2 ^ i ≤ 2 ^ (f.precision - 1) * 2 ^ e := by
      have hk' : (k : ℚ) ≤ 2 ^ f.precision := by exact_mod_cast hk.le
      calc (k : ℚ) * 2 ^ i ≤ 2 ^ f.precision * 2 ^ i := by gcongr
        _ ≤ 2 ^ (f.precision - 1) * 2 ^ e := hf.finer_le finer
    calc |(m : ℚ) * 2 ^ e - v| ≤ |((2 ^ (f.precision - 1) : ℕ) : ℚ) * 2 ^ e - v| := onScale _
      _ = v - 2 ^ (f.precision - 1) * 2 ^ e := by
        push_cast
        rw [abs_sub_comm, abs_of_nonneg (sub_nonneg.mpr hfull)]
      _ ≤ v - k * 2 ^ i := by linarith
      _ ≤ |k * 2 ^ i - v| := by
        rw [abs_sub_comm]
        exact le_abs_self _

/-- The distance of two quantities of the grid is at least the greater one shifted by the length of
the mantissa. -/
theorem Grid.apart (hg : f.Grid g) (hq : f.Grid q) (hlt : g < q) :
    q ≤ 2 ^ f.precision * (q - g) := by
  have onScale : ∀ (k l : ℕ) (i : ℤ), k < 2 ^ f.precision → k < l →
      (l : ℚ) * 2 ^ i ≤ 2 ^ f.precision * (l * 2 ^ i - k * 2 ^ i) := by
    intro k l i hk hkl
    obtain ⟨c, rfl⟩ := Nat.exists_eq_add_of_lt hkl
    have hle : k + c + 1 ≤ 2 ^ f.precision * (c + 1) := by
      have hc : c ≤ 2 ^ f.precision * c := Nat.le_mul_of_pos_left c (Nat.pow_pos two_pos)
      rw [Nat.mul_succ]
      omega
    have hle' : ((k + c + 1 : ℕ) : ℚ) ≤ 2 ^ f.precision * (c + 1) := by exact_mod_cast hle
    calc ((k + c + 1 : ℕ) : ℚ) * 2 ^ i ≤ 2 ^ f.precision * (c + 1) * 2 ^ i := by gcongr
      _ = 2 ^ f.precision * ((k + c + 1 : ℕ) * 2 ^ i - k * 2 ^ i) := by
        push_cast
        ring
  obtain ⟨k, i, hk, -, rfl⟩ := hg
  obtain ⟨l, j, hl, -, rfl⟩ := hq
  rcases le_total i j with coarser | finer
  · obtain ⟨n, rfl⟩ := Int.le.dest coarser
    rw [Rounded.shift] at hlt ⊢
    exact onScale _ _ i hk (by exact_mod_cast lt_of_mul_lt_mul_right hlt (by positivity))
  · obtain ⟨n, rfl⟩ := Int.le.dest finer
    rw [Rounded.shift] at hlt ⊢
    have hkl : k * 2 ^ n < l := by exact_mod_cast lt_of_mul_lt_mul_right hlt (by positivity)
    exact onScale _ _ j (hkl.trans hl) hkl

/-- Whether a quantity is near enough to a value to be rounded to it, in whichever binade the value
lies. -/
def Close (f : FloatFormat) (v q : ℚ) : Prop := 2 ^ (f.precision + 1) * |v - q| < q

theorem Close.refl (hq : 0 < q) : f.Close q q := by simpa [Close] using hq

theorem Close.eq (hf : f.Proper) (close : f.Close v q) (hq : f.Grid q) {m : ℕ} {e : ℤ}
    (h : f.Rounded v m e) : m * 2 ^ e = q := by
  have hsum : |(m : ℚ) * 2 ^ e - q| ≤ 2 * |v - q| := by
    have hnear := h.abs_sub_le hf hq
    have htriangle := abs_sub_le ((m : ℚ) * 2 ^ e) v q
    rw [abs_sub_comm q v] at hnear
    linarith
  have hfar : 2 ^ f.precision * |(m : ℚ) * 2 ^ e - q| < q := by
    calc 2 ^ f.precision * |(m : ℚ) * 2 ^ e - q| ≤ 2 ^ f.precision * (2 * |v - q|) := by gcongr
      _ = 2 ^ (f.precision + 1) * |v - q| := by ring
      _ < q := close
  by_contra hne
  rcases lt_or_gt_of_ne hne with below | above
  · have hapart := (h.grid hf).apart hq below
    rw [abs_sub_comm, abs_of_pos (sub_pos.mpr below)] at hfar
    exact absurd hapart hfar.not_ge
  · have hapart := hq.apart (h.grid hf) above
    rw [abs_of_pos (sub_pos.mpr above)] at hfar
    exact absurd (above.le.trans hapart) hfar.not_ge

theorem Close.holds (hf : f.Proper) {num den : ℕ} (close : f.Close (num / den) q)
    (hq : f.Has q) (hden : 0 < den) : f.Holds (f.round false num den) q := by
  obtain ⟨m, e, rounded, hcases⟩ := round_cases hf num hden
  rw [close.eq hf hq.1 rounded] at hcases
  exact hcases.elim (fun h => absurd h.2 hq.2.not_ge) And.left

/-! ## Reading a decimal -/

variable {m digits : ℕ} {e power : ℤ}

/-- A decimal is rounded as a quotient unless it is far out of range. -/
theorem ofDecimal_cases (f : FloatFormat) (hdigits : digits ≠ 0) :
    400 < power ∧ f.ofDecimal false digits power = .infinite false ∨
      power + (Nat.toDigits 10 digits).length < -400 ∧
        f.ofDecimal false digits power = .finite false 0 f.minExponent ∨
      ∃ num den : ℕ, 0 < den ∧ (num : ℚ) / den = digits * 10 ^ power ∧
        f.ofDecimal false digits power = f.round false num den := by
  unfold ofDecimal
  rw [if_neg hdigits]
  split_ifs with huge tiny hpower
  · exact .inl ⟨huge, rfl⟩
  · exact .inr (.inl ⟨tiny, rfl⟩)
  · obtain ⟨n, rfl⟩ := Int.eq_ofNat_of_zero_le hpower
    exact .inr (.inr ⟨digits * 10 ^ n, 1, one_pos, by simp, rfl⟩)
  · obtain ⟨n, rfl⟩ : ∃ n : ℕ, power = -n := ⟨(-power).toNat, by omega⟩
    exact .inr (.inr ⟨digits, 10 ^ n, Nat.pow_pos (by decide), by simp [div_eq_mul_inv],
      by simp⟩)

theorem reads_of_readsBack (hf : f.Proper) (hm : 0 < m) (hq : f.Has (m * 2 ^ e))
    (hdigits : digits ≠ 0) (h : f.readsBack m e digits power = true) :
    f.Reads (digits * 10 ^ power) (m * 2 ^ e) := by
  have hback : (f.ofDecimal false digits power).Is (m * 2 ^ e) := by
    rw [beq_iff_eq.mp h]
    exact (rounds_roundScaled hf m e).exact hq
  rcases f.ofDecimal_cases hdigits with ⟨-, heq⟩ | ⟨-, heq⟩ | ⟨num, den, hden, hvalue, heq⟩ <;>
    rw [heq] at hback
  · exact absurd rfl hback.ne_infinite
  · have hzero : (m : ℚ) * 2 ^ e = 0 := hback.unique ⟨0, f.minExponent, rfl, by simp⟩
    have hpos : (0 : ℚ) < m * 2 ^ e := by positivity
    exact absurd hzero hpos.ne'
  · obtain ⟨n, j, rounded, hcases⟩ := round_cases hf num hden
    rw [← hvalue]
    refine ⟨n, j, rounded, ?_⟩
    rcases hcases with ⟨hinfinite, -⟩ | ⟨holds, -⟩
    · exact absurd hinfinite hback.ne_infinite
    · exact holds.is.unique hback

theorem Close.readsBack (hf : f.Proper) (hm : 0 < m) (hq : f.Has (m * 2 ^ e))
    (hdigits : digits ≠ 0) (close : f.Close (digits * 10 ^ power) (m * 2 ^ e))
    (hhigh : power ≤ 400) (hlow : -400 ≤ power + (Nat.toDigits 10 digits).length) :
    f.readsBack m e digits power = true := by
  obtain ⟨num, den, hden, hvalue, heq⟩ := ((f.ofDecimal_cases hdigits).resolve_left
    fun h => absurd hhigh h.1.not_ge).resolve_left fun h => absurd hlow h.1.not_ge
  obtain ⟨num', den', hden', hvalue', heq'⟩ := f.roundScaled_eq m e
  rw [← hvalue] at close
  have same : f.Close (num' / den') (m * 2 ^ e) := by
    rw [hvalue']
    exact Close.refl (by positivity)
  rw [FloatFormat.readsBack, beq_iff_eq, heq, heq']
  exact (close.holds hf hq hden).unique hf (same.holds hf hq hden')

/-! ## The decimals next to a value -/

variable {num den : ℕ}

theorem decimalAt_eq_some {r : ℕ × ℤ} (h : f.decimalAt m e num den power = some r) :
    r.1 ≠ 0 ∧ f.readsBack m e r.1 r.2 = true := by
  unfold decimalAt at h
  dsimp only at h
  generalize (scaleDown 10 num den power).1 / (scaleDown 10 num den power).2 = low at h
  split at h
  · rename_i hlow hhigh
    simp only [Bool.and_eq_true, bne_iff_ne] at hlow
    split_ifs at h <;> cases h
    · exact ⟨hlow.2, hlow.1⟩
    · exact ⟨Nat.succ_ne_zero low, hhigh⟩
    · exact ⟨hlow.2, hlow.1⟩
    · exact ⟨Nat.succ_ne_zero low, hhigh⟩
  · rename_i hlow hhigh
    simp only [Bool.and_eq_true, bne_iff_ne] at hlow
    cases h
    exact ⟨hlow.2, hlow.1⟩
  · rename_i hlow hhigh
    cases h
    exact ⟨Nat.succ_ne_zero low, hhigh⟩
  · cases h

theorem decimalAt_eq_none (h : f.decimalAt m e num den power = none) {low : ℕ}
    (hlow : (scaleDown 10 num den power).1 / (scaleDown 10 num den power).2 = low)
    (hne : low ≠ 0) :
    f.readsBack m e low power = false ∧ f.readsBack m e (low + 1) power = false := by
  unfold decimalAt at h
  dsimp only at h
  rw [hlow] at h
  split at h
  · split_ifs at h
  · cases h
  · cases h
  · rename_i hlowBack hhighBack
    simpa [hne] using And.intro hlowBack hhighBack

end FloatFormat

/-! ## The decimal exponent -/

/-- The climb ends at the first power of ten that lifts the numerator over the denominator. -/
theorem climb_spec (num den : ℕ) : ∀ (fuel n k : ℕ), n = num * 10 ^ k → n < den * 10 →
    den ≤ num * 10 ^ (k + fuel) → ∃ j : ℕ, decimalExponent.climb den fuel n k = -j ∧
      den ≤ num * 10 ^ j ∧ num * 10 ^ j < den * 10
  | 0, n, k, hn, hlt, hle => ⟨k, rfl, hle, hn ▸ hlt⟩
  | fuel + 1, n, k, hn, hlt, hle => by
    rw [decimalExponent.climb]
    split_ifs with hden
    · exact ⟨k, rfl, hn ▸ hden, hn ▸ hlt⟩
    · refine climb_spec num den fuel (n * 10) (k + 1) ?_ (by omega) ?_
      · rw [hn, pow_succ, mul_assoc]
      · rwa [Nat.succ_add_eq_add_succ]

/-- The decimal exponent of a quotient is the power of ten that leaves it one place before the
point. -/
theorem decimalExponent_spec {num den : ℕ} (hden : 0 < den) (hsmall : den ≤ num * 10 ^ 400) :
    (10 : ℚ) ^ decimalExponent num den ≤ num / den ∧
      (num : ℚ) / den < 10 ^ (decimalExponent num den + 1) := by
  have hpos : (0 : ℚ) < den := by exact_mod_cast hden
  unfold decimalExponent
  split_ifs with hle
  · have hwhole : 0 < num / den := Nat.div_pos hle hden
    obtain ⟨k, hk⟩ := Nat.exists_eq_add_one.mpr (Nat.length_toDigits_pos (b := 10) (n := num / den))
    rw [hk, Nat.cast_add_one, add_sub_cancel_right]
    have hhigh : num / den < 10 ^ (k + 1) :=
      (Nat.length_toDigits_le_iff (by decide) k.succ_pos).mp hk.le
    have hlow : 10 ^ k ≤ num / den := by
      rcases k.eq_zero_or_pos with rfl | hkpos
      · exact hwhole
      · by_contra! hlt
        have := (Nat.length_toDigits_le_iff (by decide) hkpos).mpr hlt
        omega
    rw [le_div_iff₀ hpos, div_lt_iff₀ hpos, zpow_add_one₀ (by decide), zpow_natCast, ← pow_succ]
    exact ⟨by exact_mod_cast (Nat.le_div_iff_mul_le hden).mp hlow,
      by exact_mod_cast (Nat.div_lt_iff_lt_mul hden).mp hhigh⟩
  · obtain ⟨k, heq, hlow, hhigh⟩ := climb_spec num den 400 num 0 (by simp)
      (by omega) (by rwa [Nat.zero_add])
    have hk : (0 : ℚ) < 10 ^ k := by positivity
    have hlow' : (den : ℚ) ≤ num * 10 ^ k := by exact_mod_cast hlow
    have hhigh' : (num : ℚ) * 10 ^ k < den * 10 := by exact_mod_cast hhigh
    rw [heq, zpow_add_one₀ (by decide), zpow_neg, zpow_natCast]
    constructor
    · rwa [inv_le_iff_one_le_mul₀ hk, ← mul_div_right_comm, one_le_div₀ hpos]
    · rw [div_lt_iff₀ hpos, mul_assoc, inv_mul_eq_div, lt_div_iff₀ hk]
      linarith

namespace FloatFormat

/-! ## Seventeen digits -/

variable {m num den : ℕ} {e : ℤ}

/-- The positive doubles lie within these powers of ten, and more narrowly yet. -/
theorem double_bounds (hm : 0 < m) (hq : double.Has (m * 2 ^ e)) :
    (10 : ℚ) ^ (-358 : ℤ) ≤ m * 2 ^ e ∧ (m : ℚ) * 2 ^ e < 10 ^ (342 : ℤ) := by
  have hpowers : ∀ n : ℕ, (2 : ℚ) ^ (3 * n) ≤ 10 ^ n := by
    intro n
    rw [pow_mul]
    gcongr
    norm_num
  constructor
  · obtain ⟨k, j, -, hj, heq⟩ := hq.1
    have hk : (1 : ℚ) ≤ k := by
      have hpos : (0 : ℚ) < m * 2 ^ e := by positivity
      have hne : k ≠ 0 := Floating.mantissa_ne_zero (heq ▸ hpos.ne')
      exact_mod_cast Nat.one_le_iff_ne_zero.mpr hne
    calc (10 : ℚ) ^ (-358 : ℤ) = (10 ^ 358)⁻¹ := by rw [zpow_neg, zpow_ofNat]
      _ ≤ (2 ^ (3 * 358))⁻¹ := inv_anti₀ (by positivity) (hpowers 358)
      _ = 2 ^ double.minExponent := by
        rw [← zpow_natCast, ← zpow_neg]
        rfl
      _ ≤ 2 ^ j := zpow_le_zpow_right₀ one_le_two hj
      _ ≤ k * 2 ^ j := le_mul_of_one_le_left (by positivity) hk
      _ = m * 2 ^ e := heq.symm
  · calc (m : ℚ) * 2 ^ e < double.top := hq.2
      _ = 2 ^ 1024 := by
        rw [top, ← zpow_natCast, ← zpow_add₀ two_ne_zero]
        rfl
      _ ≤ 2 ^ (3 * 342) := pow_le_pow_right₀ one_le_two (by decide)
      _ ≤ 10 ^ (342 : ℤ) := hpowers 342

theorem floor_bounds (hden : 0 < den) {power : ℤ} {low : ℕ}
    (hlow : (scaleDown 10 num den power).1 / (scaleDown 10 num den power).2 = low) :
    (low : ℚ) * 10 ^ power ≤ num / den ∧ (num : ℚ) / den < (low + 1) * 10 ^ power := by
  have hunit : (0 : ℚ) < 10 ^ power := by positivity
  have hscaled := scaleDown_eq 10 num den power
  have hpos : 0 < (scaleDown 10 num den power).2 := scaleDown_pos (by decide) hden power
  rw [Nat.cast_ofNat] at hscaled
  rw [← le_div_iff₀ hunit, ← div_lt_iff₀ hunit, ← hscaled]
  generalize scaleDown 10 num den power = quotient at hlow hpos
  rw [← hlow]
  refine ⟨Nat.cast_div_le, ?_⟩
  rw [div_lt_iff₀ (by exact_mod_cast hpos)]
  exact_mod_cast (Nat.div_lt_iff_lt_mul hpos).mp (Nat.lt_succ_self _)

/-- A decimal of seventeen digits within half a unit of a double reads back as it. -/
theorem readsBack_of_near {digits : ℕ} {power : ℤ} (hm : 0 < m) (hq : double.Has (m * 2 ^ e))
    (hlead : 10 ^ 16 * (10 : ℚ) ^ power ≤ m * 2 ^ e) (hdigits : 10 ^ 16 ≤ digits)
    (hhigh : power ≤ 400) (hlow : -416 ≤ power)
    (near : 2 * |(digits : ℚ) * 10 ^ power - m * 2 ^ e| ≤ 10 ^ power) :
    double.readsBack m e digits power = true := by
  have hlength : 16 < (Nat.toDigits 10 digits).length := by
    by_contra! hshort
    have := (Nat.length_toDigits_le_iff (by decide) (by decide)).mp hshort
    omega
  refine Close.readsBack double_proper hm hq (by omega) ?_ hhigh (by omega)
  have hprecision : double.precision + 1 = 54 := rfl
  rw [Close, hprecision]
  calc 2 ^ 54 * |(digits : ℚ) * 10 ^ power - m * 2 ^ e|
      = 2 ^ 53 * (2 * |(digits : ℚ) * 10 ^ power - m * 2 ^ e|) := by ring
    _ ≤ 2 ^ 53 * 10 ^ power := by gcongr
    _ < 10 ^ 16 * 10 ^ power := by gcongr; norm_num
    _ ≤ m * 2 ^ e := hlead

/-- One of the decimals of seventeen digits next to a double reads back as it. -/
theorem decimalAt_seventeen (hm : 0 < m) (hq : double.Has (m * 2 ^ e)) (hden : 0 < den)
    (hvalue : (num : ℚ) / den = m * 2 ^ e) :
    double.decimalAt m e num den (decimalExponent num den - 16) ≠ none := by
  obtain ⟨htiny, hhuge⟩ := double_bounds hm hq
  have hpos : (0 : ℚ) < den := by exact_mod_cast hden
  have hsmall : den ≤ num * 10 ^ 400 := by
    rw [← hvalue, le_div_iff₀ hpos, zpow_neg, zpow_ofNat, inv_mul_le_iff₀ (by positivity),
      mul_comm] at htiny
    have hnum : den ≤ num * 10 ^ 358 := by
      rw [← Nat.cast_le (α := ℚ), Nat.cast_mul, Nat.cast_pow, Nat.cast_ofNat]
      exact htiny
    refine hnum.trans ?_
    gcongr
    · norm_num
    · norm_num
  obtain ⟨hleast, hgreatest⟩ := decimalExponent_spec hden hsmall
  rw [hvalue] at hleast hgreatest
  generalize decimalExponent num den = k at hleast hgreatest ⊢
  have hhigh : k < 342 := (zpow_lt_zpow_iff_right₀ (by norm_num)).mp (hleast.trans_lt hhuge)
  have hlow : -358 < k + 1 := (zpow_lt_zpow_iff_right₀ (by norm_num)).mp (htiny.trans_lt hgreatest)
  have hlead : 10 ^ 16 * (10 : ℚ) ^ (k - 16) ≤ m * 2 ^ e := by
    rw [← zpow_natCast, ← zpow_add₀ (by norm_num)]
    simpa using hleast
  intro hnone
  obtain ⟨low, hdigits⟩ : ∃ low, (scaleDown 10 num den (k - 16)).1 /
    (scaleDown 10 num den (k - 16)).2 = low := ⟨_, rfl⟩
  obtain ⟨hfloor, hceil⟩ := floor_bounds hden hdigits
  rw [hvalue] at hfloor hceil
  have hseventeen : 10 ^ 16 ≤ low := by
    have hlt : (10 : ℚ) ^ 16 < low + 1 :=
      lt_of_mul_lt_mul_right (hlead.trans_lt hceil) (by positivity)
    exact Nat.lt_succ_iff.mp (by exact_mod_cast hlt)
  obtain ⟨hlowFails, hhighFails⟩ := decimalAt_eq_none hnone hdigits (by omega)
  rcases le_total (2 * ((m : ℚ) * 2 ^ e - low * 10 ^ (k - 16))) (10 ^ (k - 16)) with lower | upper
  · refine Bool.false_ne_true (hlowFails.symm.trans
      (readsBack_of_near hm hq hlead hseventeen (by omega) (by omega) ?_))
    rwa [abs_sub_comm, abs_of_nonneg (sub_nonneg.mpr hfloor)]
  · refine Bool.false_ne_true (hhighFails.symm.trans
      (readsBack_of_near hm hq hlead (by omega) (by omega) (by omega) ?_))
    push_cast
    rw [abs_of_nonneg (sub_nonneg.mpr hceil.le)]
    linarith

end FloatFormat

/-- The shortest decimal of a double is read as the double. -/
theorem shortest_reads {m : ℕ} {e : ℤ} (hm : 0 < m) (hq : double.Has (m * 2 ^ e)) :
    (shortest double m e).1 ≠ 0 ∧
      double.Reads ((shortest double m e).1 * 10 ^ (shortest double m e).2) (m * 2 ^ e) := by
  unfold shortest
  dsimp only
  have hden : 0 < (scaleDown 2 m 1 (-e)).2 := scaleDown_pos two_pos one_pos _
  have hvalue : ((scaleDown 2 m 1 (-e)).1 : ℚ) / (scaleDown 2 m 1 (-e)).2 = m * 2 ^ e := by
    simp [scaleDown_eq]
  split
  · rename_i r hfound
    obtain ⟨i, -, hat⟩ := List.exists_of_findSome?_eq_some hfound
    obtain ⟨hne, hback⟩ := FloatFormat.decimalAt_eq_some hat
    exact ⟨hne, FloatFormat.reads_of_readsBack FloatFormat.double_proper hm hq hne hback⟩
  · rename_i hmissing
    exact absurd (List.findSome?_eq_none_iff.mp hmissing 16 (by decide))
      (FloatFormat.decimalAt_seventeen hm hq hden hvalue)

/-- Digits without their trailing zeros denote the same decimal. -/
theorem stripZeros_spec (fuel : ℕ) (r : ℕ × ℤ) :
    ((stripZeros fuel r).1 : ℚ) * 10 ^ (stripZeros fuel r).2 = r.1 * 10 ^ r.2 ∧
      (r.1 ≠ 0 → (stripZeros fuel r).1 ≠ 0) := by
  induction fuel generalizing r with
  | zero => exact ⟨rfl, id⟩
  | succ fuel ih =>
    obtain ⟨digits, power⟩ := r
    rw [stripZeros]
    split_ifs with hzero
    · obtain ⟨hmod, hne⟩ := hzero
      obtain ⟨hvalue, hkept⟩ := ih (digits / 10, power + 1)
      have hten : digits = digits / 10 * 10 := by omega
      refine ⟨?_, fun _ => hkept (by omega)⟩
      rw [hvalue, zpow_add_one₀ (by norm_num)]
      conv_rhs => rw [hten]
      push_cast
      ring
    · exact ⟨rfl, id⟩

end SiteSpiders.Number

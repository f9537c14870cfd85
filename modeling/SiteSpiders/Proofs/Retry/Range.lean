import SiteSpiders.Proofs.Retry.Powers

/-!
# The range of delays

A delay that grows is a product in floating point, which is cut to the greatest delay only
afterwards. So a product out of the range of spans breaks the computation off, however short the
greatest delay is. A delay that is safe for all attempts does not grow by a factor, and if it
grows evenly it starts below a second.
-/
namespace SiteSpiders.Retry

open Number FloatFormat

/-! ## Spans in double precision -/

namespace Duration

/-- The least number of seconds that double precision rounds to the bound of spans. -/
def reach : ℕ := wordBound - Nat.pow 2 10

theorem reach_eq : (reach : ℚ) = 2 ^ 64 - 2 ^ 10 := by
  have h : reach = 18446744073709550592 := rfl
  norm_num [h]

lemma reach_lt : (reach : ℚ) < 2 ^ 64 := by norm_num [reach_eq]

/-- The reach lies in the middle between the bound and the greatest number below it. -/
theorem reach_middle : (((2 ^ 53 - 1 : ℕ) : ℚ) + 1 / 2) * 2 ^ (11 : ℤ) = reach := by
  norm_num [reach_eq]

end Duration

variable {x : Floating} {q : ℚ}

theorem lt_double_top : (2 : ℚ) ^ 64 < double.top := by
  calc (2 : ℚ) ^ 64 = 2 ^ 53 * 2 ^ (11 : ℤ) := by norm_num
    _ < 2 ^ 53 * 2 ^ (971 : ℤ) := by
      gcongr
      · norm_num
      · norm_num

theorem atMost_of_lt_reach (h : double.Rounds q x) (hq : q < Duration.reach) :
    x.AtMost (2 ^ 64 - 2 ^ 11) := by
  have hfull : ((2 ^ 53 - 1 : ℕ) : ℚ) * 2 ^ (11 : ℤ) = 2 ^ 64 - 2 ^ 11 := by norm_num
  rw [← hfull]
  refine h.le_of_lt (by decide) (by decide) (by decide) ?_ (Duration.reach_middle ▸ hq)
  rw [hfull]
  exact (by norm_num : (2 : ℚ) ^ 64 - 2 ^ 11 < 2 ^ 64).trans lt_double_top

theorem atLeast_of_reach_le (h : double.Rounds q x) (hq : Duration.reach ≤ q) :
    x.AtLeast (2 ^ 64) := by
  have hnext : (((2 ^ 53 - 1 : ℕ) : ℚ) + 1) * 2 ^ (11 : ℤ) = 2 ^ 64 := by norm_num
  rw [← hnext]
  exact h.succ_le (by decide) (by decide) (by decide) (by decide) (Duration.reach_middle ▸ hq)

namespace Duration

/-- The part of a span below a second, in seconds. -/
def fraction (d : Duration) : Floating :=
  double.div (double.ofNat d.subNanos) (double.ofNat perSecond)

lemma toFloating_eq (d : Duration) :
    d.toFloating = double.add (double.ofNat d.seconds) d.fraction := rfl

lemma subNanos_lt (d : Duration) : d.subNanos < perSecond := Nat.mod_lt _ (by decide)

theorem rounds_fraction (d : Duration) : double.Rounds (d.subNanos / perSecond) d.fraction := by
  have hsecond : (double.ofNat perSecond).Is perSecond := ofNat_is double_proper (by decide)
  have hsub : (double.ofNat d.subNanos).Is d.subNanos :=
    ofNat_is double_proper (d.subNanos_lt.trans (by decide))
  exact rounds_div double_proper hsub hsecond (by norm_num [perSecond])

theorem fraction_is (d : Duration) : ∃ w ≤ 1, d.fraction.Is w := by
  have hle : (d.subNanos : ℚ) / perSecond ≤ 1 := by
    rw [div_le_one (by norm_num [perSecond])]
    exact_mod_cast d.subNanos_lt.le
  obtain ⟨w, hw, hle⟩ := d.rounds_fraction.atMost (has_one double_proper) hle
  exact ⟨w, hle, hw⟩

theorem toFloating_atLeast {d : Duration} {g : ℚ} (hg : double.Grid g)
    (h : (double.ofNat d.seconds).AtLeast g) : d.toFloating.AtLeast g := by
  obtain ⟨w, -, hw⟩ := d.fraction_is
  rw [toFloating_eq]
  exact add_atLeast double_proper h hw hg (le_add_of_nonneg_right hw.nonneg)

lemma toFloating_nonneg (d : Duration) : d.toFloating.AtLeast 0 :=
  toFloating_atLeast grid_zero ((rounds_ofNat double_proper _).atLeast grid_zero (by positivity))

theorem one_le_toFloating {d : Duration} (h : perSecond ≤ d.nanos) : d.toFloating.AtLeast 1 := by
  have hseconds : 1 ≤ d.seconds := (Nat.one_le_div_iff (by decide)).mpr h
  have hgrid := (has_one double_proper).1
  exact toFloating_atLeast hgrid ((rounds_ofNat double_proper _).atLeast hgrid
    (by exact_mod_cast hseconds))

/-- A span shorter than a second is clear of one in seconds. -/
theorem toFloating_lt_one {d : Duration} (h : d.nanos < perSecond) :
    d.toFloating.AtMost (1 - 2 ^ (-32 : ℤ)) := by
  have hhas : double.Has (1 - 2 ^ (-32 : ℤ)) := by
    refine ⟨⟨2 ^ 32 - 1, -32, by decide, by decide, by norm_num⟩, ?_⟩
    exact (by norm_num : (1 : ℚ) - 2 ^ (-32 : ℤ) < 2 ^ 64).trans lt_double_top
  have hseconds : d.seconds = 0 := Nat.div_eq_of_lt h
  have hzero : (double.ofNat d.seconds).Is 0 := by
    have h := ofNat_is double_proper (n := 0) (by decide)
    rwa [Nat.cast_zero, ← hseconds] at h
  have hsub : (d.subNanos : ℚ) / perSecond ≤ 1 - 2 ^ (-32 : ℤ) := by
    have hle : (d.subNanos : ℚ) + 1 ≤ perSecond := by exact_mod_cast d.subNanos_lt
    rw [div_le_iff₀ (by norm_num [perSecond])]
    norm_num [perSecond] at hle ⊢
    linarith
  obtain ⟨w, hw, hle⟩ := d.rounds_fraction.atMost hhas hsub
  rw [toFloating_eq]
  refine (rounds_add double_proper hzero hw).atMost hhas ?_
  rwa [zero_add]

/-- A span is within the reach in seconds exactly if it is by its whole seconds. -/
theorem toFloating_lt_reach_iff {d : Duration} :
    (∃ s, d.toFloating.Is s ∧ s < reach) ↔ d.nanos < reach * perSecond := by
  rw [← Nat.div_lt_iff_lt_mul (by decide)]
  constructor
  · rintro ⟨s, hs, hlt⟩
    by_contra hseconds
    have hle : (reach : ℚ) ≤ d.seconds := by exact_mod_cast not_lt.mp hseconds
    have hgrid : double.Grid (2 ^ 64) := ⟨1, 64, by decide, by decide, by norm_num⟩
    have hge := (toFloating_atLeast hgrid
      (atLeast_of_reach_le (rounds_ofNat double_proper _) hle)).le hs
    exact absurd hlt (reach_lt.le.trans hge).not_gt
  · intro hseconds
    have hlt : (d.seconds : ℚ) < reach := by exact_mod_cast hseconds
    obtain ⟨v, hv, hle⟩ := atMost_of_lt_reach (rounds_ofNat double_proper _) hlt
    obtain ⟨w, hw, hfraction⟩ := d.fraction_is
    have hsum : v + w < reach := by
      rw [reach_eq]
      norm_num at hle ⊢
      linarith
    obtain ⟨s, hs, hle⟩ := atMost_of_lt_reach (rounds_add double_proper hv hfraction) hsum
    refine ⟨s, hs, hle.trans_lt ?_⟩
    norm_num [reach_eq]

/-! ### From seconds back to a span -/

/-- A number of seconds is rounded to nanoseconds, which are a span if they are below the bound. -/
theorem ofFloating_cases (h : x.Is q) : ∃ nanos, Nearest (q * perSecond) nanos ∧
    ofFloating x = if nanos < bound then .ok ⟨nanos⟩ else .error .unboundedDelay := by
  obtain ⟨m, e, rfl, rfl⟩ := h
  refine ⟨roundDiv (scaleDown 2 (m * perSecond) 1 (-e)).1 (scaleDown 2 (m * perSecond) 1 (-e)).2,
    ?_, ?_⟩
  · have hpos : 0 < (scaleDown 2 (m * perSecond) 1 (-e)).2 := scaleDown_pos two_pos one_pos _
    have hnearest := roundDiv_nearest (scaleDown 2 (m * perSecond) 1 (-e)).1 hpos
    rw [scaleDown_eq, zpow_neg, div_inv_eq_mul, Nat.cast_one, div_one, Nat.cast_mul,
      mul_right_comm] at hnearest
    exact hnearest
  · simp only [ofFloating, Bool.false_eq_true, false_and, if_false]

theorem bound_eq : (bound : ℚ) = 2 ^ 64 * perSecond := by
  have h : bound = 18446744073709551616 * perSecond := rfl
  rw [h]
  norm_num

theorem ofFloating_ok (h : x.AtMost (2 ^ 64 - 2 ^ 11)) : ∃ d, ofFloating x = .ok d := by
  obtain ⟨v, is, hle⟩ := h
  obtain ⟨nanos, hnearest, heq⟩ := ofFloating_cases is
  have hnanos : nanos ≤ (2 ^ 64 - 2 ^ 11) * perSecond := by
    refine hnearest.ge ?_
    push_cast
    gcongr
    norm_num at hle ⊢
    exact hle
  rw [heq, if_pos (hnanos.trans_lt (by decide))]
  exact ⟨_, rfl⟩

theorem ofFloating_error (h : x.AtLeast (2 ^ 64)) : ofFloating x = .error .unboundedDelay := by
  rcases h with rfl | ⟨v, is, hle⟩
  · rfl
  · obtain ⟨nanos, hnearest, heq⟩ := ofFloating_cases is
    have hnanos : bound ≤ nanos := by
      refine hnearest.le ?_
      rw [bound_eq]
      gcongr
    rw [heq, if_neg hnanos.not_gt]

/-- Whether a span and a factor are finite in floating point, with a product within the reach. -/
def InReach (d : Duration) (x : Floating) : Prop :=
  ∃ s q, d.toFloating.Is s ∧ x.Is q ∧ s * q < reach

variable {d : Duration}

theorem times_ok (h : d.InReach x) : ∃ p, d.times x = .ok p := by
  obtain ⟨s, q, hs, hq, hlt⟩ := h
  exact ofFloating_ok (atMost_of_lt_reach (rounds_mul double_proper hs hq) hlt)

theorem ofFloating_infinite (h : x.AtLeast 0) :
    ofFloating (double.mul (.infinite false) x) = .error .unboundedDelay ∧
      ofFloating (double.mul x (.infinite false)) = .error .unboundedDelay := by
  rcases h with rfl | ⟨v, ⟨m, e, rfl, -⟩, -⟩
  · exact ⟨rfl, rfl⟩
  · simp only [FloatFormat.mul]
    split_ifs <;> exact ⟨rfl, rfl⟩

theorem times_error (hx : x.AtLeast 0) (h : ¬d.InReach x) :
    d.times x = .error .unboundedDelay := by
  unfold times
  rcases d.toFloating_nonneg with hinf | ⟨s, hs, -⟩
  · rw [hinf]
    exact (ofFloating_infinite hx).1
  · rcases hx with rfl | ⟨q, hq, -⟩
    · exact (ofFloating_infinite (hs.atLeast.mono hs.nonneg)).2
    · have hle : reach ≤ s * q := not_lt.mp fun hlt => h ⟨s, q, hs, hq, hlt⟩
      exact ofFloating_error (atLeast_of_reach_le (rounds_mul double_proper hs hq) hle)

end Duration

/-! ## Delays -/

/-- What a delay is multiplied by for an attempt. -/
def Backoff.multiplier : Backoff → ℕ → Floating
  | .constant, _ => single.ofNat 1
  | .linear, attempt => single.ofNat attempt
  | .exponential factor, attempt => power factor (attemptExponent attempt)

/-- Whether a backoff does not shrink delays: its factor, if it has one, is a finite number of
single precision, from one on. -/
def Backoff.Growing : Backoff → Prop
  | .exponential factor => ∃ q, 1 ≤ q ∧ single.Has q ∧ factor.Is q
  | _ => True

theorem Backoff.Growing.multiplier_nonneg {b : Backoff} (h : b.Growing) (attempt : ℕ) :
    (b.multiplier attempt).AtLeast 0 := by
  cases b with
  | constant => exact (ofNat_one single_proper).atLeast.mono zero_le_one
  | linear => exact (rounds_ofNat single_proper _).atLeast grid_zero (by positivity)
  | exponential factor =>
    obtain ⟨q, hone, -, hq⟩ := h
    simp only [Backoff.multiplier]
    exact power_atLeast (hq.atLeast.mono hone) (attemptExponent attempt)

namespace CategoryConfig

variable {c : CategoryConfig} {attempt : ℕ}

/-- Whether the delay for an attempt can be computed: it is the first or all are alike, or the
product is within the reach. -/
def Computes (c : CategoryConfig) (attempt : ℕ) : Prop :=
  attempt = 0 ∨ c.backoff = .constant ∨ c.initialDelay.InReach (c.backoff.multiplier attempt)

theorem rawDelay_eq (h : c.backoff ≠ .constant) :
    c.rawDelay attempt = c.initialDelay.times (c.backoff.multiplier attempt) := by
  unfold rawDelay
  cases hb : c.backoff with
  | constant => exact absurd hb h
  | linear => rfl
  | exponential factor => rfl

theorem delay_ok (h : c.Computes attempt) : ∃ d, c.delay attempt = .ok d := by
  have hraw : attempt ≠ 0 → ∃ d, c.rawDelay attempt = .ok d := by
    intro hattempt
    by_cases hconstant : c.backoff = .constant
    · exact ⟨c.initialDelay, by simp [rawDelay, hconstant]⟩
    · rw [rawDelay_eq hconstant]
      exact Duration.times_ok ((h.resolve_left hattempt).resolve_left hconstant)
  unfold delay
  split_ifs with hfirst
  · exact ⟨_, rfl⟩
  · obtain ⟨d, hd⟩ := hraw hfirst
    exact ⟨d.shorter c.maxDelay, by rw [hd, Except.map]⟩

theorem delay_error (growing : c.backoff.Growing) (h : ¬c.Computes attempt) :
    c.delay attempt = .error .unboundedDelay := by
  obtain ⟨hfirst, hconstant, hreach⟩ := not_or.mp h |>.imp_right not_or.mp
  rw [delay, if_neg hfirst, rawDelay_eq hconstant,
    Duration.times_error (growing.multiplier_nonneg attempt) hreach]
  rfl

theorem delay_ok_iff (growing : c.backoff.Growing) :
    (∃ d, c.delay attempt = .ok d) ↔ c.Computes attempt := by
  refine ⟨fun ⟨d, hd⟩ => ?_, delay_ok⟩
  by_contra h
  rw [delay_error growing h] at hd
  cases hd

/-- Whether a category has a delay for every attempt. -/
def Lasting (c : CategoryConfig) : Prop :=
  match c.backoff with
  | .constant => True
  | .linear => c.initialDelay.nanos < Duration.perSecond
  | .exponential factor =>
    factor.Is 1 ∧ c.initialDelay.nanos < Duration.reach * Duration.perSecond

theorem ofNat_atLeast_bound : (single.ofNat (wordBound - 1)).AtLeast (2 ^ 64) := by
  have hnext : (((2 ^ 24 - 1 : ℕ) : ℚ) + 1) * 2 ^ (40 : ℤ) = 2 ^ 64 := by norm_num
  have hlast : wordBound - 1 = 18446744073709551615 := rfl
  rw [← hnext]
  refine (rounds_ofNat single_proper _).succ_le (by decide) (by decide) (by decide) (by decide) ?_
  rw [hlast]
  norm_num

theorem computes_linear_iff (hlinear : c.backoff = .linear) :
    (∀ attempt < wordBound, c.Computes attempt) ↔ c.initialDelay.nanos < Duration.perSecond := by
  have hcomputes : ∀ attempt, c.Computes attempt ↔
      attempt = 0 ∨ c.initialDelay.InReach (single.ofNat attempt) := by
    intro attempt
    simp [Computes, hlinear, Backoff.multiplier]
  simp only [hcomputes]
  have hgrid : single.Grid (2 ^ 64) := ⟨1, 64, by decide, by decide, by norm_num⟩
  constructor
  · intro h
    by_contra hlong
    obtain hlast | ⟨s, q, hs, hq, hlt⟩ := h (wordBound - 1) (by decide)
    · exact absurd hlast (by decide)
    · have hone : 1 ≤ s := (Duration.one_le_toFloating (not_lt.mp hlong)).le hs
      have hbound : 2 ^ 64 ≤ q := ofNat_atLeast_bound.le hq
      have hle : 2 ^ 64 ≤ s * q := hbound.trans (le_mul_of_one_le_left hq.nonneg hone)
      exact absurd hlt (Duration.reach_lt.le.trans hle).not_gt
  · intro hshort attempt hattempt
    obtain ⟨s, hs, hle⟩ := Duration.toFloating_lt_one hshort
    have hbound : (attempt : ℚ) ≤ 2 ^ 64 := by exact_mod_cast hattempt.le
    obtain ⟨q, hq, hle'⟩ := (rounds_ofNat single_proper attempt).atMost
      ⟨hgrid, by norm_num [top, single]⟩ hbound
    refine .inr ⟨s, q, hs, hq, ?_⟩
    calc s * q ≤ (1 - 2 ^ (-32 : ℤ)) * 2 ^ 64 := mul_le_mul hle hle' hq.nonneg (by norm_num)
      _ < Duration.reach := by norm_num [Duration.reach_eq]

theorem computes_exponential_iff {factor : Floating} (hfactor : c.backoff = .exponential factor)
    (growing : c.backoff.Growing) :
    (∀ attempt < wordBound, c.Computes attempt) ↔
      factor.Is 1 ∧ c.initialDelay.nanos < Duration.reach * Duration.perSecond := by
  have hcomputes : ∀ attempt, c.Computes attempt ↔
      attempt = 0 ∨ c.initialDelay.InReach (power factor (attemptExponent attempt)) := by
    intro attempt
    simp [Computes, hfactor, Backoff.multiplier]
  rw [hfactor] at growing
  obtain ⟨q, hone, has, hq⟩ := growing
  simp only [hcomputes]
  have hunit : q = 1 → ∀ attempt, (c.initialDelay.InReach (power factor (attemptExponent attempt)) ↔
      c.initialDelay.nanos < Duration.reach * Duration.perSecond) := by
    rintro rfl attempt
    have hpower := power_one hq (attemptExponent attempt)
    rw [← Duration.toFloating_lt_reach_iff]
    constructor
    · rintro ⟨s, r, hs, hr, hlt⟩
      rw [hr.unique hpower, mul_one] at hlt
      exact ⟨s, hs, hlt⟩
    · rintro ⟨s, hs, hlt⟩
      exact ⟨s, 1, hs, hpower, by rwa [mul_one]⟩
  constructor
  · intro h
    rcases hone.eq_or_lt with rfl | hlarge
    · exact ⟨hq, (hunit rfl 1).mp ((h 1 (by decide)).resolve_left one_ne_zero)⟩
    · -- a larger factor has an infinite power at the late attempt
      have hinfinite := power_infinite (hq.atLeast.mono (next_after_one has.1 hlarge))
      obtain ⟨s, r, -, hr, -⟩ := (h lateAttempt (by decide)).resolve_left (by decide)
      exact absurd hinfinite hr.ne_infinite
  · rintro ⟨hfactor, hreach⟩ attempt -
    exact .inr ((hunit (hq.unique hfactor) attempt).mpr hreach)

theorem computes_iff_lasting (growing : c.backoff.Growing) :
    (∀ attempt < wordBound, c.Computes attempt) ↔ c.Lasting := by
  unfold Lasting
  cases hb : c.backoff with
  | constant => exact iff_of_true (fun _ _ => .inr (.inl hb)) trivial
  | linear => exact computes_linear_iff hb
  | exponential factor => exact computes_exponential_iff hb growing

end CategoryConfig

/-- A backoff that grows has a delay for an attempt exactly if it is the first, if all delays are
alike, or if the initial delay and what it is multiplied by have a product within the reach of
spans; otherwise the computation breaks off, whatever the greatest delay is. So there is a delay
for every attempt exactly if all delays are alike, if they grow evenly from less than a second, or
if their factor is one and the initial delay is within the reach. -/
theorem delays_computed_iff {c : CategoryConfig} (growing : c.backoff.Growing) :
    (∀ attempt, (∃ d, c.delay attempt = .ok d) ↔ c.Computes attempt) ∧
      (∀ attempt, ¬c.Computes attempt → c.delay attempt = .error .unboundedDelay) ∧
      ((∀ attempt < wordBound, ∃ d, c.delay attempt = .ok d) ↔ c.Lasting) := by
  refine ⟨fun attempt => c.delay_ok_iff growing, fun attempt => c.delay_error growing, ?_⟩
  rw [← c.computes_iff_lasting growing]
  exact forall₂_congr fun attempt _ => c.delay_ok_iff growing

lemma ofNat_two : (single.ofNat 2).Is 2 := ofNat_is single_proper (by decide)

lemma growing_doubling : (Backoff.exponential (single.ofNat 2)).Growing :=
  ⟨2, one_le_two, has_natCast single_proper (by decide), ofNat_two⟩

/-- Delays that double do not last, and delays that grow evenly from half a second do. -/
theorem delays_computed_sample :
    let doubling : CategoryConfig := {}
    let even : CategoryConfig := { initialDelay := .ofMillis 500, backoff := .linear }
    doubling.backoff.Growing ∧ (¬∀ attempt < wordBound, ∃ d, doubling.delay attempt = .ok d) ∧
      ∀ attempt < wordBound, ∃ d, even.delay attempt = .ok d := by
  intro doubling even
  refine ⟨growing_doubling, fun h => ?_, ?_⟩
  · have hlasting : doubling.Lasting := (delays_computed_iff growing_doubling).2.2.mp h
    exact absurd (ofNat_two.unique hlasting.1) (by norm_num)
  · have hlasting : even.Lasting := by
      show (Duration.ofMillis 500).nanos < Duration.perSecond
      decide
    exact (delays_computed_iff (c := even) trivial).2.2.mpr hlasting

/-- A delay that doubles from a second is cut to a minute up to the attempt after which its double
is out of range, and there the computation breaks off. -/
theorem doubled_delay_breaks_off :
    let c : CategoryConfig := {}
    c.initialDelay.nanos ≤ c.maxDelay.nanos ∧ c.backoff.Growing ∧
      c.delay 63 = .ok (.ofSeconds 60) ∧ c.delay 64 = .error .unboundedDelay := by
  intro c
  refine ⟨by decide, growing_doubling, ?_, ?_⟩
  · decide +kernel
  · decide +kernel

end SiteSpiders.Retry

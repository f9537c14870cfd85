import SiteSpiders.Json.Printer
import SiteSpiders.Proofs.Number.Shortest

/-!
# Numerals

What the text of a number denotes. A double is written as a decimal with a fraction or an
exponent, in one of four layouts, and the decimal is one that is read as the double.
-/
namespace SiteSpiders.Json

open Number

/-! ## Decimal digits -/

/-- Whether a text is made of digits and denotes a number; zeros may stand in front. -/
structure Digits (cs : List Char) (n : ℕ) : Prop where
  nonempty : cs ≠ []
  digits : ∀ c ∈ cs, c.isDigit = true
  value : Nat.ofDigitChars 10 cs 0 = n

theorem digits_toDigits (n : ℕ) : Digits (Nat.toDigits 10 n) n :=
  ⟨Nat.toDigits_ne_nil, fun _ => Nat.isDigit_of_mem_toDigits (by decide) (by decide),
    Nat.ofDigitChars_ten_toDigits⟩

theorem Digits.zeros {cs : List Char} {n : ℕ} (h : Digits cs n) (z : ℕ) :
    Digits (List.replicate z '0' ++ cs) n where
  nonempty := by simp [h.nonempty]
  digits c hc := by
    rcases List.mem_append.mp hc with hzero | hrest
    · rw [(List.mem_replicate.mp hzero).2]
      rfl
    · exact h.digits c hrest
  value := by
    rw [Nat.ofDigitChars_append, Nat.ofDigitChars_replicate_zero, Nat.mul_zero, h.value]

theorem toDigits_mul_pow {n : ℕ} (hn : n ≠ 0) (z : ℕ) :
    Nat.toDigits 10 (n * 10 ^ z) = Nat.toDigits 10 n ++ List.replicate z '0' := by
  induction z with
  | zero => simp
  | succ z ih =>
    have hpos : 0 < n * 10 ^ z := Nat.mul_pos (Nat.pos_of_ne_zero hn) (Nat.pow_pos (by decide))
    have hsucc : n * 10 ^ (z + 1) = 10 * (n * 10 ^ z) + 0 := by ring
    rw [hsucc, ← Nat.toDigits_append_toDigits (by decide) hpos (by decide), ih,
      List.replicate_succ', List.append_assoc]
    rfl

/-- The last digits of a number are those of its remainder. -/
theorem toDigits_split (k : ℕ) {n : ℕ} (hn : 0 < n / 10 ^ k) :
    ∃ last, Nat.toDigits 10 n = Nat.toDigits 10 (n / 10 ^ k) ++ last ∧ last.length = k ∧
      (∀ c ∈ last, c.isDigit = true) ∧ Nat.ofDigitChars 10 last 0 = n % 10 ^ k := by
  obtain ⟨last, hsplit, hlength⟩ : ∃ last,
      Nat.toDigits 10 n = Nat.toDigits 10 (n / 10 ^ k) ++ last ∧ last.length = k := by
    induction k generalizing n with
    | zero => exact ⟨[], by simp, rfl⟩
    | succ k ih =>
      rw [pow_succ', ← Nat.div_div_eq_div_mul] at hn ⊢
      have hten : 10 ≤ n := by
        by_contra! hlt
        simp [Nat.div_eq_of_lt hlt] at hn
      obtain ⟨last, hsplit, hlength⟩ := ih hn
      refine ⟨last ++ [(n % 10).digitChar], ?_, by simp [hlength]⟩
      rw [Nat.toDigits_of_base_le (by decide) hten, hsplit, List.append_assoc]
  refine ⟨last, hsplit, hlength, fun c hc => ?_, ?_⟩
  · refine (digits_toDigits n).digits c ?_
    rw [hsplit]
    exact List.mem_append_right _ hc
  · have hvalue : 10 ^ k * (n / 10 ^ k) + Nat.ofDigitChars 10 last 0 = n := by
      rw [← hlength, ← Nat.ofDigitChars_eq_ofDigitChars_zero, hlength,
        ← Nat.ofDigitChars_ten_toDigits (n := n / 10 ^ k), ← Nat.ofDigitChars_append, ← hsplit,
        Nat.ofDigitChars_ten_toDigits]
    have := Nat.div_add_mod n (10 ^ k)
    omega

/-! ## Numerals -/

/-- The part of a numeral after its whole number, from the point on. -/
inductive Fraction : List Char → ℚ → Prop
  | none : Fraction [] 0
  | some {cs : List Char} {n : ℕ} (h : Digits cs n) : Fraction ('.' :: cs) (n / 10 ^ cs.length)

/-- The exponent of a numeral. -/
inductive Exponent : List Char → ℤ → Prop
  | none : Exponent [] 0
  | above (n : ℕ) : Exponent ('e' :: '+' :: Nat.toDigits 10 n) n
  | below (n : ℕ) : Exponent ('e' :: '-' :: Nat.toDigits 10 n) (-n)

/-- Whether a text is a decimal with a fraction or an exponent, and denotes a quantity. No zero
stands in front of a whole number. -/
inductive Numeral : List Char → ℚ → Prop
  | mk (whole : ℕ) {fraction exponent : List Char} {a : ℚ} {x : ℤ} (hf : Fraction fraction a)
      (he : Exponent exponent x) (marked : fraction ≠ [] ∨ exponent ≠ []) :
      Numeral (Nat.toDigits 10 whole ++ fraction ++ exponent) ((whole + a) * 10 ^ x)

/-- Whether a text denotes a number. A double is the sign and a numeral that is read as its
size, and there is no numeral for what is not finite. Mantissas and exponents that no double has
are left out. -/
inductive NumberText : JsonNumber → List Char → Prop
  | natural (n : ℕ) : NumberText (.natural n) (Nat.toDigits 10 n)
  | negative (n : ℕ) : NumberText (.negative n) ('-' :: Nat.toDigits 10 n)
  | nan : NumberText (.floating .nan) ['n', 'u', 'l', 'l']
  | infinite (isNegative : Bool) :
      NumberText (.floating (.infinite isNegative)) ['n', 'u', 'l', 'l']
  | finite (isNegative : Bool) {m : ℕ} {e : ℤ} {text : List Char}
      (numeral : double.Has (m * 2 ^ e) → ∃ v, Numeral text v ∧ double.Reads v (m * 2 ^ e)) :
      NumberText (.floating (.finite isNegative m e)) ((if isNegative then ['-'] else []) ++ text)

/-! ## The layouts of a double -/

variable {digits : ℕ} {z k : ℕ}

theorem numeral_whole (hdigits : digits ≠ 0) (z : ℕ) :
    Numeral (Nat.toDigits 10 digits ++ List.replicate z '0' ++ ['.', '0'])
      (digits * 10 ^ (z : ℤ)) := by
  rw [← toDigits_mul_pow hdigits]
  have zero : Fraction ['.', '0'] 0 := by
    simpa using Fraction.some (digits_toDigits 0)
  simpa using Numeral.mk (digits * 10 ^ z) zero .none (.inl (by simp))

theorem div_add_mod_pow (digits k : ℕ) :
    ((digits / 10 ^ k : ℕ) + (digits % 10 ^ k : ℕ) / 10 ^ k : ℚ) = digits * 10 ^ (-k : ℤ) := by
  have hpow : (10 : ℚ) ^ k ≠ 0 := by positivity
  have hparts : (10 : ℚ) ^ k * (digits / 10 ^ k : ℕ) + (digits % 10 ^ k : ℕ) = digits := by
    exact_mod_cast Nat.div_add_mod digits (10 ^ k)
  rw [zpow_neg, zpow_natCast, ← div_eq_mul_inv, eq_div_iff hpow, add_mul, div_mul_cancel₀ _ hpow,
    mul_comm, hparts]

theorem pos_div_pow (hdigits : digits ≠ 0) (hk : k < (Nat.toDigits 10 digits).length) :
    0 < digits / 10 ^ k := by
  refine Nat.div_pos ?_ (Nat.pow_pos (by decide))
  rcases k.eq_zero_or_pos with rfl | hpos
  · exact Nat.pos_of_ne_zero hdigits
  · by_contra! hlt
    exact absurd hk ((Nat.length_toDigits_le_iff (by decide) hpos).mpr hlt).not_gt

/-- A point before the last digits. -/
theorem numeral_point (hdigits : digits ≠ 0) (hk : 0 < k) {j : ℕ} (hj : 0 < j)
    (hjk : (Nat.toDigits 10 digits).length = j + k) :
    Numeral ((Nat.toDigits 10 digits).take j ++ '.' :: (Nat.toDigits 10 digits).drop j)
      (digits * 10 ^ (-k : ℤ)) := by
  obtain ⟨last, hsplit, hlength, hdigit, hvalue⟩ :=
    toDigits_split k (pos_div_pow hdigits (by omega))
  have hlast : last ≠ [] := List.ne_nil_of_length_pos (hlength ▸ hk)
  have hfirst : (Nat.toDigits 10 (digits / 10 ^ k)).length = j := by
    rw [hsplit, List.length_append, hlength] at hjk
    omega
  have numeral := Numeral.mk (digits / 10 ^ k) (.some ⟨hlast, hdigit, hvalue⟩) .none
    (.inl (by simp))
  rw [hlength, zpow_zero, mul_one, List.append_nil, div_add_mod_pow] at numeral
  rwa [hsplit, List.take_left' hfirst, List.drop_left' hfirst]

theorem numeral_below_one (hk : z + (Nat.toDigits 10 digits).length = k) :
    Numeral ('0' :: '.' :: (List.replicate z '0' ++ Nat.toDigits 10 digits))
      (digits * 10 ^ (-k : ℤ)) := by
  have numeral := Numeral.mk 0 (.some ((digits_toDigits digits).zeros z)) .none (.inl (by simp))
  simpa [hk, div_eq_mul_inv] using numeral

/-- The first digit, a point before the others, and an exponent. -/
theorem numeral_exponent (hdigits : digits ≠ 0) (hk : (Nat.toDigits 10 digits).length = k + 1)
    {exponent : List Char} {x : ℤ} (he : Exponent exponent x) (hne : exponent ≠ []) :
    Numeral (pointed (Nat.toDigits 10 digits) ++ exponent) (digits * 10 ^ (-k : ℤ) * 10 ^ x) := by
  obtain ⟨last, hsplit, hlength, hdigit, hvalue⟩ :=
    toDigits_split k (pos_div_pow hdigits (by omega))
  obtain ⟨first, hfirst⟩ : ∃ first, Nat.toDigits 10 (digits / 10 ^ k) = [first] := by
    rw [← List.length_eq_one_iff]
    rw [hsplit, List.length_append, hlength] at hk
    omega
  rw [hsplit, hfirst, ← div_add_mod_pow]
  cases last with
  | nil =>
    obtain rfl : k = 0 := hlength.symm
    have numeral := Numeral.mk digits .none he (.inr hne)
    rw [pow_zero, Nat.div_one] at hfirst
    rw [hfirst] at numeral
    simpa [pointed, Nat.mod_one] using numeral
  | cons second rest =>
    have numeral := Numeral.mk (digits / 10 ^ k) (.some ⟨by simp, hdigit, hvalue⟩) he (.inr hne)
    rw [hfirst, hlength] at numeral
    exact numeral

theorem exponent_signed (x : ℤ) :
    Exponent ('e' :: (if x < 0 then '-' else '+') :: Nat.toDigits 10 x.natAbs) x := by
  split_ifs with hx
  · obtain ⟨n, rfl⟩ : ∃ n : ℕ, x = -n := ⟨(-x).toNat, by omega⟩
    rw [Int.natAbs_neg]
    exact .below n
  · obtain ⟨n, rfl⟩ := Int.eq_ofNat_of_zero_le (not_lt.mp hx)
    exact .above n

/-- The text of a positive double is a numeral that is read as the double. -/
theorem positiveDouble_numeral {m : ℕ} {e : ℤ} (hm : 0 < m) (hq : double.Has (m * 2 ^ e)) :
    ∃ v, Numeral (positiveDouble m e) v ∧ double.Reads v (m * 2 ^ e) := by
  obtain ⟨hne, reads⟩ := shortest_reads hm hq
  obtain ⟨hstripped, hkept⟩ := stripZeros_spec 20 (shortest double m e)
  rw [← hstripped] at reads
  refine ⟨_, ?_, reads⟩
  have hdigits := hkept hne
  unfold positiveDouble
  dsimp only
  generalize (stripZeros 20 (shortest double m e)).1 = digits at hdigits ⊢
  generalize (stripZeros 20 (shortest double m e)).2 = power
  obtain ⟨n, hn⟩ := Nat.exists_eq_add_one.mpr (Nat.length_toDigits_pos (b := 10) (n := digits))
  rw [hn]
  have scientific := numeral_exponent hdigits hn (exponent_signed ((n + 1 : ℕ) + power - 1))
    (by simp)
  have hvalue : (digits : ℚ) * 10 ^ (-n : ℤ) * 10 ^ (((n + 1 : ℕ) : ℤ) + power - 1) =
      digits * 10 ^ power := by
    rw [mul_assoc, ← zpow_add₀ (by norm_num)]
    congr 2
    push_cast
    ring
  rw [hvalue] at scientific
  generalize (if ((n + 1 : ℕ) : ℤ) + power - 1 < 0 then '-' else '+') = sign at scientific ⊢
  split_ifs with whole point small
  · have numeral := numeral_whole hdigits power.toNat
    rwa [Int.toNat_of_nonneg whole.1] at numeral
  · obtain ⟨k, rfl⟩ : ∃ k : ℕ, power = -k := ⟨(-power).toNat, by omega⟩
    exact numeral_point hdigits (by omega) (by omega) (by omega)
  · obtain ⟨k, rfl⟩ : ∃ k : ℕ, power = -k := ⟨(-power).toNat, by omega⟩
    exact numeral_below_one (by omega)
  · exact scientific

/-! ## Zero -/

theorem reads_zero : double.Reads 0 0 :=
  ⟨0, double.minExponent, double.rounded_zero, by simp⟩

theorem numberChars_text (n : JsonNumber) : NumberText n (numberChars n) := by
  cases n with
  | natural n => exact .natural n
  | negative n => exact .negative n
  | floating x =>
    cases x with
    | nan => exact .nan
    | infinite s => exact .infinite s
    | finite s m e =>
      refine .finite s fun hq => ?_
      split_ifs with hm
      · subst hm
        refine ⟨0, ?_, by simpa using reads_zero⟩
        simpa using Numeral.mk 0 (.some (digits_toDigits 0)) .none (.inl (by simp))
      · exact positiveDouble_numeral (Nat.pos_of_ne_zero hm) hq

end SiteSpiders.Json

import WikiQuery.Proofs.Rounding

/-!
Truncation towards zero, of a number and of what it is rounded to. Rounding to 53 significant bits can
carry a number to the next integer; it does not if the number is a quotient of few digits, and it makes
no difference to the nearest integer of 64 bits once the number is beyond these integers. A numeral is
read by truncating what its value is rounded to.
-/

set_option autoImplicit false

namespace WikiQuery.Number

variable {x f : ℚ} {m k : ℤ} {num den : Nat}

/-- A number without its fraction. -/
def truncated (x : ℚ) : ℤ :=
  if 0 ≤ x then ⌊x⌋ else ⌈x⌉

theorem truncated_of_nonneg (nonneg : 0 ≤ x) : truncated x = ⌊x⌋ :=
  if_pos nonneg

@[simp]
theorem truncated_zero : truncated 0 = 0 := by
  simp [truncated]

@[simp]
theorem truncated_intCast (n : ℤ) : truncated n = n := by
  simp [truncated]

@[simp]
theorem truncated_neg (x : ℚ) : truncated (-x) = -truncated x := by
  unfold truncated
  rcases lt_trichotomy x 0 with negative | rfl | positive
  · rw [if_pos (by linarith), if_neg (by linarith), Int.floor_neg]
  · simp
  · rw [if_neg (by linarith), if_pos positive.le, Int.ceil_neg]

namespace RoundsTo

theorem neg (h : RoundsTo x f) : RoundsTo (-x) (-f) := by
  obtain ⟨m, k, rounding, rfl⟩ := h
  exact ⟨-m, k, rounding.neg, by push_cast; ring⟩

/-- Rounding leads from no side of a power of two to the other. -/
theorem two_pow_le (h : RoundsTo x f) {p : ℕ} (low : 2 ^ p ≤ x) : 2 ^ p ≤ f := by
  obtain ⟨m, k, rounding, rfl⟩ := h
  have nonneg : 0 ≤ x := le_trans (by positivity) low
  have unit : (0 : ℚ) < 2 ^ k := by positivity
  rcases le_total k p with fine | coarse
  · obtain ⟨d, gap⟩ := Int.eq_ofNat_of_zero_le (sub_nonneg.mpr fine)
    have multiple : ((2 ^ d : ℤ) : ℚ) * 2 ^ k = 2 ^ p := by
      push_cast
      rw [← zpow_natCast, ← zpow_natCast, ← zpow_add₀ two_ne_zero, ← gap, sub_add_cancel]
    rw [← multiple] at low ⊢
    exact mul_le_mul_of_nonneg_right (Int.cast_le.mpr (rounding.le_mantissa low)) unit.le
  · have wide : (1 : ℚ) ≤ m := by
      have := (rounding.mantissa_bounds nonneg).1
      exact_mod_cast le_trans (by norm_num) this
    calc (2 : ℚ) ^ p
      _ = 2 ^ (p : ℤ) := (zpow_natCast _ _).symm
      _ ≤ 2 ^ k := zpow_le_zpow_right₀ one_le_two coarse
      _ ≤ m * 2 ^ k := le_mul_of_one_le_left unit.le wide

/-- A quotient is not carried over an integer if its numerator has at most 53 bits. -/
theorem floor_eq (h : RoundsTo ((num : ℚ) / den) f) (pos : 0 < den) (short : num < 2 ^ 53) :
    ⌊f⌋ = ⌊(num : ℚ) / den⌋ := by
  obtain ⟨m, k, rounding, rfl⟩ := h
  have unit : (0 : ℚ) < 2 ^ k := by positivity
  have pos' : (0 : ℚ) < den := by exact_mod_cast pos
  have short' : (num : ℚ) < 2 ^ 53 := by exact_mod_cast short
  have least := rounding.least
  rw [abs_of_nonneg (by positivity)] at least
  obtain ⟨below, -⟩ := abs_le.mp rounding.near
  -- The unit is at most one, so that integers are multiples of it.
  have fine : k ≤ 0 := by
    have low : (2 : ℚ) ^ k < 2 := by
      have whole : (num : ℚ) / den ≤ num :=
        div_le_self (by positivity) (by exact_mod_cast pos)
      linarith
    by_contra coarse
    have high : (2 : ℚ) ^ (1 : ℤ) ≤ 2 ^ k := zpow_le_zpow_right₀ one_le_two (by omega)
    rw [zpow_one] at high
    linarith
  obtain ⟨d, rfl⟩ : ∃ d : ℕ, k = -d := ⟨(-k).toNat, by omega⟩
  have multiple (j : ℤ) : ((j * 2 ^ d : ℤ) : ℚ) * 2 ^ (-d : ℤ) = j := by
    push_cast
    rw [zpow_neg, zpow_natCast, mul_assoc, mul_inv_cancel₀ (by positivity), mul_one]
  rw [Int.floor_eq_iff]
  constructor
  · have low : ((⌊(num : ℚ) / den⌋ * 2 ^ d : ℤ) : ℚ) * 2 ^ (-d : ℤ) ≤ num / den := by
      rw [multiple]
      exact Int.floor_le _
    rw [← multiple ⌊(num : ℚ) / den⌋]
    exact mul_le_mul_of_nonneg_right (Int.cast_le.mpr (rounding.le_mantissa low)) unit.le
  · -- The error is less than one part of the denominator, the next integer at least that far.
    have error : (2 : ℚ) ^ (-d : ℤ) / 2 < 1 / den := by
      have small : (num : ℚ) / den < 2 ^ 53 * (1 / den) := by
        rw [div_eq_mul_one_div]
        exact mul_lt_mul_of_pos_right short' (by positivity)
      linarith
    have next : (num : ℚ) / den + 1 / den ≤ ⌊(num : ℚ) / den⌋ + 1 := by
      have above := Int.lt_floor_add_one ((num : ℚ) / den)
      rw [div_lt_iff₀ pos'] at above
      rw [← add_div, div_le_iff₀ pos']
      have above' : (num : ℤ) < (⌊(num : ℚ) / den⌋ + 1) * den := by exact_mod_cast above
      exact_mod_cast Int.add_one_le_iff.mpr above'
    linarith

theorem nonneg (h : RoundsTo x f) (nonneg : 0 ≤ x) : 0 ≤ f := by
  obtain ⟨m, k, rounding, rfl⟩ := h
  have low : 0 ≤ m := le_trans (by norm_num) (rounding.mantissa_bounds nonneg).1
  exact mul_nonneg (by exact_mod_cast low) (by positivity)

/-- Few digits are truncated as they are. -/
theorem truncated_eq (h : RoundsTo x f) (pos : 0 < den) (quotient : |x| = num / den)
    (short : num < 2 ^ 53) : truncated f = truncated x := by
  rcases le_total 0 x with positive | negative
  · rw [abs_of_nonneg positive] at quotient
    rw [truncated_of_nonneg (h.nonneg positive), truncated_of_nonneg positive]
    subst quotient
    exact h.floor_eq pos short
  · have positive : 0 ≤ -x := neg_nonneg.mpr negative
    rw [abs_of_nonpos negative] at quotient
    rw [← neg_inj, ← truncated_neg, ← truncated_neg, truncated_of_nonneg (h.neg.nonneg positive),
      truncated_of_nonneg positive]
    have opposite := h.neg
    rw [quotient] at opposite ⊢
    exact opposite.floor_eq pos short

end RoundsTo

theorem clampInt64_truncated_of_le (large : 2 ^ 63 ≤ x) : clampInt64 (truncated x) = maxInt64 := by
  have low : (2 ^ 63 : ℤ) ≤ ⌊x⌋ := Int.le_floor.mpr (by exact_mod_cast large)
  rw [truncated_of_nonneg (le_trans (by positivity) large)]
  simp only [clampInt64, minInt64, maxInt64]
  omega

theorem clampInt64_truncated_neg_of_le (large : 2 ^ 63 ≤ x) :
    clampInt64 (truncated (-x)) = minInt64 := by
  have low : (2 ^ 63 : ℤ) ≤ ⌊x⌋ := Int.le_floor.mpr (by exact_mod_cast large)
  rw [truncated_neg, truncated_of_nonneg (le_trans (by positivity) large)]
  simp only [clampInt64, minInt64, maxInt64]
  omega

/-- Rounding does not carry a number to another integer of 64 bits. -/
def Unmoved (x : ℚ) : Prop :=
  ∀ f, RoundsTo x f → clampInt64 (truncated f) = clampInt64 (truncated x)

/-- A quotient of few digits is not moved. -/
theorem unmoved_of_short (pos : 0 < den) (quotient : |x| = num / den) (short : num < 2 ^ 53) :
    Unmoved x := by
  intro f rounds
  rw [rounds.truncated_eq pos quotient short]

/-- A number beyond the integers of 64 bits is not moved. -/
theorem unmoved_of_far (far : 2 ^ 63 ≤ |x|) : Unmoved x := by
  intro f rounds
  rcases le_abs'.mp far with below | above
  · have large : 2 ^ 63 ≤ -x := le_neg.mpr below
    have large' : 2 ^ 63 ≤ -f := rounds.neg.two_pow_le large
    rw [← neg_neg f, ← neg_neg x, clampInt64_truncated_neg_of_le large,
      clampInt64_truncated_neg_of_le large']
  · rw [clampInt64_truncated_of_le above, clampInt64_truncated_of_le (rounds.two_pow_le above)]

/-- The number that a numeral stands for. -/
def Numeral.value (x : Numeral) : ℚ :=
  (if x.negative then -1 else 1) * (x.digits * 10 ^ x.exponent)

theorem Numeral.abs_value (x : Numeral) : |x.value| = x.digits * 10 ^ x.exponent := by
  have magnitude : |(x.digits : ℚ) * 10 ^ x.exponent| = x.digits * 10 ^ x.exponent :=
    abs_of_nonneg (by positivity)
  unfold Numeral.value
  split <;> simp [magnitude]

theorem Numeral.ratio_spec (x : Numeral) (inhabited : x.digits ≠ 0) :
    x.ratio.1 ≠ 0 ∧ x.ratio.2 ≠ 0 ∧ (x.ratio.1 : ℚ) / x.ratio.2 = |x.value| := by
  rw [x.abs_value]
  simp only [Numeral.ratio, Nat.pow_eq]
  split
  · rename_i nonneg
    obtain ⟨n, exponent⟩ := Int.eq_ofNat_of_zero_le nonneg
    refine ⟨by positivity, one_ne_zero, ?_⟩
    simp [exponent]
  · rename_i negative
    obtain ⟨n, exponent⟩ : ∃ n : ℕ, x.exponent = -n := ⟨(-x.exponent).toNat, by omega⟩
    refine ⟨inhabited, by positivity, ?_⟩
    simp [exponent, div_eq_mul_inv]

/-- A numeral other than zero is rounded to a double, which is truncated; there is none for a numeral that
is rounded beyond the range of doubles. -/
theorem Numeral.whole?_eq (x : Numeral) (inhabited : x.digits ≠ 0) :
    ∃ f, RoundsTo x.value f ∧
      x.whole? = if |x.value| < overflowBound then some (clampInt64 (truncated f)) else none := by
  obtain ⟨inhabited₁, inhabited₂, quotient⟩ := x.ratio_spec inhabited
  have rounding := isRounding_nearestBinary inhabited₁ inhabited₂
  set b := nearestBinary x.ratio.1 x.ratio.2 with binary
  rw [quotient] at rounding
  have positive : 0 ≤ |x.value| := abs_nonneg _
  have width := (rounding.mantissa_bounds positive).2
  have rounds : RoundsTo |x.value| b.value := ⟨_, _, rounding, by rw [Binary.value, Int.cast_natCast]⟩
  have within : b.value < 2 ^ 1024 ↔ |x.value| < overflowBound := by
    rw [← rounding.lt_iff positive, Binary.value, Int.cast_natCast]
  have whole : ((⌊b.value⌋₊ : ℕ) : ℤ) = truncated b.value := by
    rw [truncated_of_nonneg (rounds.nonneg positive),
      Int.natCast_floor_eq_floor (rounds.nonneg positive)]
  have sign : |x.value| = if x.negative then -x.value else x.value := by
    rw [x.abs_value, Numeral.value]
    split <;> ring
  refine ⟨if x.negative then -b.value else b.value, ?_, ?_⟩
  · rw [sign] at rounds
    split
    · rename_i negative
      rw [if_pos negative] at rounds
      simpa using rounds.neg
    · rename_i other
      rwa [if_neg other] at rounds
  · unfold Numeral.whole?
    rw [if_neg inhabited]
    simp only [← binary, b.whole?_eq (by exact_mod_cast width), within]
    by_cases below : |x.value| < overflowBound
    · simp only [if_pos below, Option.pure_def, Option.bind_eq_bind, Option.bind_some,
        Option.map_some, whole]
      split <;> simp
    · simp only [if_neg below, Option.bind_eq_bind, Option.bind_none, Option.map_none]

/-- A numeral is read if it is not rounded beyond the range of doubles, and truncated as it is if it is
not moved. -/
theorem Numeral.whole?_spec (x : Numeral) :
    (overflowBound ≤ |x.value| → x.whole? = none) ∧
      (|x.value| < overflowBound →
        ∃ n, x.whole? = some n ∧ (Unmoved x.value → n = clampInt64 (truncated x.value))) := by
  by_cases zero : x.digits = 0
  · have value : x.value = 0 := by
      rw [Numeral.value, zero, Nat.cast_zero, zero_mul, mul_zero]
    have read : x.whole? = some 0 := by
      rw [Numeral.whole?, if_pos zero]
    rw [value, abs_zero, truncated_zero]
    exact ⟨fun beyond => absurd overflowBound_pos (not_lt.mpr beyond), fun _ => ⟨0, read, fun _ => rfl⟩⟩
  · obtain ⟨f, rounds, read⟩ := x.whole?_eq zero
    refine ⟨fun beyond => by rw [read, if_neg (not_lt.mpr beyond)], fun within => ?_⟩
    exact ⟨_, by rw [read, if_pos within], fun unmoved => unmoved f rounds⟩

end WikiQuery.Number

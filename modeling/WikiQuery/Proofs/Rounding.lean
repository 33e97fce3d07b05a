import Mathlib.Algebra.Order.Field.Power
import Mathlib.Algebra.Order.Floor.Semifield
import Mathlib.Data.Rat.Floor
import Mathlib.Tactic.FieldSimp
import Mathlib.Tactic.Linarith
import Mathlib.Tactic.Positivity
import Mathlib.Tactic.Ring
import WikiQuery.Number.Numeral

/-!
Rounding to binary fractions. A quotient is brought to the nearest binary fraction of 53 significant
bits, of two to the even one, and then cut to its whole part. What a rounding comes to is said here of
rational numbers: how far it can lead, and when the result is beyond the range of doubles.
-/

set_option autoImplicit false

namespace WikiQuery.Number

variable {num den m : Nat} {x f : ℚ} {k : ℤ}

theorem roundHalfEven_near (num : Nat) (pos : 0 < den) :
    |(num : ℚ) / den - roundHalfEven num den| ≤ 1 / 2 ∧
      (|(num : ℚ) / den - roundHalfEven num den| = 1 / 2 → Even (roundHalfEven num den)) := by
  have pos' : (0 : ℚ) < den := by exact_mod_cast pos
  have parts : (num : ℚ) / den = (num / den : ℕ) + (num % den : ℕ) / den := by
    have whole : (den : ℚ) * (num / den : ℕ) + (num % den : ℕ) = num := by
      exact_mod_cast Nat.div_add_mod num den
    field_simp
    linarith
  have below : ((num % den : ℕ) : ℚ) / den < 1 := by
    rw [div_lt_one pos']
    exact_mod_cast Nat.mod_lt num pos
  have above : (0 : ℚ) ≤ ((num % den : ℕ) : ℚ) / den := by positivity
  unfold roundHalfEven
  rw [parts]
  by_cases low : 2 * (num % den) < den
  · have half : ((num % den : ℕ) : ℚ) / den < 1 / 2 := by
      rw [div_lt_div_iff₀ pos' two_pos]
      have : ((2 * (num % den) : ℕ) : ℚ) < den := by exact_mod_cast low
      push_cast at this
      linarith
    simp only [low, if_true, add_sub_cancel_left, abs_of_nonneg above]
    exact ⟨half.le, fun same => absurd same half.ne⟩
  · by_cases high : den < 2 * (num % den)
    · have half : 1 / 2 < ((num % den : ℕ) : ℚ) / den := by
        rw [div_lt_div_iff₀ two_pos pos']
        have : (den : ℚ) < ((2 * (num % den) : ℕ) : ℚ) := by exact_mod_cast high
        push_cast at this
        linarith
      simp only [low, high, if_true, if_false]
      push_cast
      rw [add_sub_add_left_eq_sub, abs_of_neg (by linarith)]
      exact ⟨by linarith, fun same => by linarith⟩
    · have half : ((num % den : ℕ) : ℚ) / den = 1 / 2 := by
        rw [div_eq_div_iff pos'.ne' two_ne_zero]
        have : 2 * (num % den) = den := by omega
        have : ((2 * (num % den) : ℕ) : ℚ) = den := by exact_mod_cast this
        push_cast at this
        linarith
      simp only [low, high, if_false]
      rw [half]
      push_cast
      rw [add_sub_add_left_eq_sub]
      rcases Nat.mod_two_eq_zero_or_one (num / den) with even | odd
      · rw [even]
        refine ⟨by norm_num, fun _ => ?_⟩
        rw [Nat.even_iff]
        omega
      · rw [odd]
        refine ⟨by norm_num [abs_of_neg], fun _ => ?_⟩
        rw [Nat.even_iff]
        omega

theorem scaledDown_spec (num : Nat) (pos : 0 < den) (k : ℤ) :
    0 < (scaledDown num den k).2 ∧
      ((scaledDown num den k).1 : ℚ) / (scaledDown num den k).2 = num / den / 2 ^ k := by
  unfold scaledDown
  split
  · rename_i nonneg
    obtain ⟨n, rfl⟩ := Int.eq_ofNat_of_zero_le nonneg
    simp only [Int.toNat_natCast, Nat.shiftLeft_eq, zpow_natCast]
    refine ⟨by positivity, ?_⟩
    push_cast
    rw [div_div]
  · rename_i negative
    obtain ⟨n, rfl⟩ : ∃ n : ℕ, k = -n := ⟨(-k).toNat, by omega⟩
    simp only [neg_neg, Int.toNat_natCast, Nat.shiftLeft_eq, zpow_neg, zpow_natCast]
    refine ⟨pos, ?_⟩
    push_cast
    field_simp

/-- The number `m * 2 ^ k` is `x` rounded to 53 significant bits; a half goes to the even neighbour. -/
structure IsRounding (x : ℚ) (m k : ℤ) : Prop where
  least : 2 ^ 52 * 2 ^ k ≤ |x|
  greatest : |x| < 2 ^ 53 * 2 ^ k
  near : |x - m * 2 ^ k| ≤ 2 ^ k / 2
  even : |x - m * 2 ^ k| = 2 ^ k / 2 → Even m

/-- A number is `x` rounded to 53 significant bits. -/
def RoundsTo (x f : ℚ) : Prop :=
  ∃ m k : ℤ, IsRounding x m k ∧ f = m * 2 ^ k

theorem isRounding_roundHalfEven (pos : 0 < den) (least : 2 ^ 52 * 2 ^ k ≤ (num : ℚ) / den)
    (greatest : (num : ℚ) / den < 2 ^ 53 * 2 ^ k) :
    IsRounding ((num : ℚ) / den)
      (roundHalfEven (scaledDown num den k).1 (scaledDown num den k).2 : ℕ) k := by
  obtain ⟨pos', scaled⟩ := scaledDown_spec num pos k
  obtain ⟨near, even⟩ := roundHalfEven_near (scaledDown num den k).1 pos'
  rw [scaled] at near even
  have unit : (0 : ℚ) < 2 ^ k := by positivity
  have magnitude : |(num : ℚ) / den| = num / den := abs_of_nonneg (by positivity)
  set r := roundHalfEven (scaledDown num den k).1 (scaledDown num den k).2
  have error : |(num : ℚ) / den - ((r : ℕ) : ℤ) * 2 ^ k| =
      |(num : ℚ) / den / 2 ^ k - r| * 2 ^ k := by
    rw [← abs_of_pos unit, ← abs_mul, abs_of_pos unit, sub_mul, div_mul_cancel₀ _ unit.ne',
      Int.cast_natCast]
  refine ⟨by rwa [magnitude], by rwa [magnitude], ?_, fun same => ?_⟩
  · rw [error]
    calc |(num : ℚ) / den / 2 ^ k - r| * 2 ^ k
      _ ≤ 1 / 2 * 2 ^ k := mul_le_mul_of_nonneg_right near unit.le
      _ = 2 ^ k / 2 := by ring
  · rw [error] at same
    have half : |(num : ℚ) / den / 2 ^ k - r| = 1 / 2 := by
      apply mul_right_cancel₀ unit.ne'
      rw [same]
      ring
    exact_mod_cast even half

/-- A quotient lies between the powers of two that the lengths of its parts in bits give. -/
theorem quotient_bounds (inhabited : num ≠ 0) (inhabited' : den ≠ 0) :
    (2 : ℚ) ^ ((num.log2 : ℤ) - den.log2 - 1) < num / den ∧
      (num : ℚ) / den < 2 ^ ((num.log2 : ℤ) - den.log2 + 1) := by
  have low : (2 : ℚ) ^ num.log2 ≤ num := by exact_mod_cast Nat.log2_self_le inhabited
  have high : (num : ℚ) < 2 ^ (num.log2 + 1) := by exact_mod_cast Nat.lt_log2_self
  have low' : (2 : ℚ) ^ den.log2 ≤ den := by exact_mod_cast Nat.log2_self_le inhabited'
  have high' : (den : ℚ) < 2 ^ (den.log2 + 1) := by exact_mod_cast Nat.lt_log2_self
  have pos : (0 : ℚ) < den := lt_of_lt_of_le (by positivity) low'
  constructor
  · have power : (2 : ℚ) ^ ((num.log2 : ℤ) - den.log2 - 1) = 2 ^ num.log2 / 2 ^ (den.log2 + 1) := by
      rw [sub_sub, zpow_sub₀ two_ne_zero]
      norm_cast
    rw [power, div_lt_div_iff₀ (by positivity) pos]
    calc (2 : ℚ) ^ num.log2 * den
      _ < 2 ^ num.log2 * 2 ^ (den.log2 + 1) := by gcongr
      _ ≤ num * 2 ^ (den.log2 + 1) := by gcongr
  · have power : (2 : ℚ) ^ ((num.log2 : ℤ) - den.log2 + 1) = 2 ^ (num.log2 + 1) / 2 ^ den.log2 := by
      rw [sub_add_eq_add_sub, zpow_sub₀ two_ne_zero]
      norm_cast
    rw [power, div_lt_div_iff₀ pos (by positivity)]
    calc (num : ℚ) * 2 ^ den.log2
      _ < 2 ^ (num.log2 + 1) * 2 ^ den.log2 := by gcongr
      _ ≤ 2 ^ (num.log2 + 1) * den := by gcongr

/-- The binary fraction nearest to a quotient is the quotient rounded to 53 significant bits. -/
theorem isRounding_nearestBinary (inhabited : num ≠ 0) (inhabited' : den ≠ 0) :
    IsRounding ((num : ℚ) / den) (nearestBinary num den).mantissa (nearestBinary num den).scale := by
  obtain ⟨low, high⟩ := quotient_bounds inhabited inhabited'
  have pos : 0 < den := Nat.pos_of_ne_zero inhabited'
  set least : ℤ := (num.log2 : ℤ) - den.log2 - 53 with least_eq
  have bottom : (2 : ℚ) ^ 52 * 2 ^ least = 2 ^ ((num.log2 : ℤ) - den.log2 - 1) := by
    rw [← zpow_natCast, ← zpow_add₀ two_ne_zero]
    congr 1
    push_cast
    omega
  have top : (2 : ℚ) ^ 54 * 2 ^ least = 2 ^ ((num.log2 : ℤ) - den.log2 + 1) := by
    rw [← zpow_natCast, ← zpow_add₀ two_ne_zero]
    congr 1
    push_cast
    omega
  rw [← bottom] at low
  rw [← top] at high
  obtain ⟨pos', scaled⟩ := scaledDown_spec num pos least
  have unit : (0 : ℚ) < 2 ^ least := by positivity
  -- Whether one more bit has to go is seen from the quotient at the least scale.
  have compared : (scaledDown num den least).1 < (scaledDown num den least).2 <<< 53 ↔
      (num : ℚ) / den < 2 ^ 53 * 2 ^ least := by
    have pos'' : (0 : ℚ) < (scaledDown num den least).2 := by exact_mod_cast pos'
    rw [← div_lt_iff₀ unit, ← scaled, div_lt_iff₀ pos'', Nat.shiftLeft_eq, mul_comm]
    exact_mod_cast Iff.rfl
  unfold nearestBinary
  simp only [← least_eq]
  by_cases within : (scaledDown num den least).1 < (scaledDown num den least).2 <<< 53
  · rw [if_pos within]
    exact isRounding_roundHalfEven pos low.le (compared.mp within)
  · rw [if_neg within]
    rw [compared, not_lt] at within
    have next : (2 : ℚ) ^ (least + 1) = 2 * 2 ^ least := by
      rw [zpow_add_one₀ two_ne_zero, mul_comm]
    refine isRounding_roundHalfEven pos ?_ ?_
    · rw [next]
      linarith
    · rw [next]
      linarith

namespace IsRounding

variable {m : ℤ}

theorem neg (h : IsRounding x m k) : IsRounding (-x) (-m) k := by
  have error : |-x - ((-m : ℤ) : ℚ) * 2 ^ k| = |x - m * 2 ^ k| := by
    rw [← abs_neg]
    congr 1
    push_cast
    ring
  refine ⟨by rw [abs_neg]; exact h.least, by rw [abs_neg]; exact h.greatest, ?_, fun same => ?_⟩
  · rw [error]
    exact h.near
  · rw [error] at same
    exact (h.even same).neg

/-- Rounding keeps the order to the multiples of the unit. -/
theorem le_mantissa (h : IsRounding x m k) {j : ℤ} (low : (j : ℚ) * 2 ^ k ≤ x) : j ≤ m := by
  have unit : (0 : ℚ) < 2 ^ k := by positivity
  obtain ⟨-, above⟩ := abs_le.mp h.near
  have close : ((j - 1 : ℤ) : ℚ) < m := by
    refine lt_of_mul_lt_mul_right ?_ unit.le
    push_cast
    linarith
  have := Int.cast_lt.mp close
  omega

theorem mantissa_le (h : IsRounding x m k) {j : ℤ} (high : x ≤ (j : ℚ) * 2 ^ k) : m ≤ j := by
  have unit : (0 : ℚ) < 2 ^ k := by positivity
  obtain ⟨below, -⟩ := abs_le.mp h.near
  have close : (m : ℚ) < ((j + 1 : ℤ) : ℚ) := by
    refine lt_of_mul_lt_mul_right ?_ unit.le
    push_cast
    linarith
  have := Int.cast_lt.mp close
  omega

/-- A number of at least zero is rounded to a mantissa of 53 bits, or to the power of two behind them. -/
theorem mantissa_bounds (h : IsRounding x m k) (nonneg : 0 ≤ x) : 2 ^ 52 ≤ m ∧ m ≤ 2 ^ 53 := by
  have least := h.least
  have greatest := h.greatest
  rw [abs_of_nonneg nonneg] at least greatest
  exact ⟨h.le_mantissa (by exact_mod_cast least), h.mantissa_le (by exact_mod_cast greatest.le)⟩

/-- The greatest mantissa of 53 bits is odd, so that halfway behind it a number is rounded up. -/
theorem mantissa_lt_iff (h : IsRounding x m k) :
    m < 2 ^ 53 ↔ x < (2 ^ 53 - 1 / 2) * 2 ^ k := by
  have unit : (0 : ℚ) < 2 ^ k := by positivity
  obtain ⟨below, above⟩ := abs_le.mp h.near
  constructor
  · intro within
    have last : m ≤ 2 ^ 53 - 1 := by omega
    have last' : (m : ℚ) ≤ 2 ^ 53 - 1 := by exact_mod_cast last
    have product : (m : ℚ) * 2 ^ k ≤ (2 ^ 53 - 1) * 2 ^ k :=
      mul_le_mul_of_nonneg_right last' unit.le
    refine lt_of_le_of_ne (by linarith) fun halfway => ?_
    have same : (m : ℚ) * 2 ^ k = ((2 ^ 53 - 1 : ℤ) : ℚ) * 2 ^ k := by
      push_cast
      linarith
    have odd : m = 2 ^ 53 - 1 := Int.cast_injective (mul_right_cancel₀ unit.ne' same)
    have distance : |x - m * 2 ^ k| = 2 ^ k / 2 := by
      rw [show x - m * 2 ^ k = 2 ^ k / 2 by rw [same]; push_cast; linarith]
      exact abs_of_pos (by positivity)
    have even := h.even distance
    rw [odd] at even
    exact absurd even (by decide)
  · intro within
    by_contra beyond
    have least : (2 ^ 53 : ℚ) ≤ m := by exact_mod_cast not_lt.mp beyond
    have product : (2 ^ 53 : ℚ) * 2 ^ k ≤ m * 2 ^ k := mul_le_mul_of_nonneg_right least unit.le
    linarith

end IsRounding

/-- From here on numbers are rounded beyond the range of doubles: halfway between the greatest double and the
next power of two. -/
def overflowBound : ℚ :=
  2 ^ 1024 - 2 ^ 970

theorem two_pow_lt_overflowBound {p : ℕ} (small : p ≤ 1000) : (2 : ℚ) ^ p < overflowBound := by
  have low : (2 : ℚ) ^ p ≤ 2 ^ 1000 := pow_le_pow_right₀ one_le_two small
  have split : (2 : ℚ) ^ 1000 = 2 ^ 30 * 2 ^ 970 := by rw [← pow_add]
  have whole : (2 : ℚ) ^ 1024 = 2 ^ 54 * 2 ^ 970 := by rw [← pow_add]
  have positive : (0 : ℚ) < 2 ^ 970 := by positivity
  rw [split] at low
  rw [overflowBound, whole]
  generalize (2 : ℚ) ^ 970 = b at low positive
  linarith

theorem overflowBound_pos : 0 < overflowBound :=
  lt_trans (by positivity) (two_pow_lt_overflowBound (Nat.zero_le 1000))

/-- A number of at least zero is rounded beyond the range of doubles from the bound on. -/
theorem IsRounding.lt_iff {m : ℤ} (h : IsRounding x m k) (nonneg : 0 ≤ x) :
    (m : ℚ) * 2 ^ k < 2 ^ 1024 ↔ x < overflowBound := by
  obtain ⟨low, high⟩ := h.mantissa_bounds nonneg
  have low' : (2 : ℚ) ^ 52 ≤ m := by exact_mod_cast low
  have high' : (m : ℚ) ≤ 2 ^ 53 := by exact_mod_cast high
  have least := h.least
  have greatest := h.greatest
  rw [abs_of_nonneg nonneg] at least greatest
  have unit : (0 : ℚ) < 2 ^ k := by positivity
  -- The bound lies in the topmost binade, whose unit is twice this power.
  have half : (0 : ℚ) < 2 ^ 970 := by positivity
  rw [overflowBound, show (2 : ℚ) ^ 1024 = 2 ^ 54 * 2 ^ 970 by rw [← pow_add]]
  rcases lt_trichotomy k 971 with order | rfl | order
  · have small : (2 : ℚ) ^ k ≤ 2 ^ 970 := by
      rw [← zpow_natCast]
      exact zpow_le_zpow_right₀ one_le_two (by push_cast; omega)
    generalize (2 : ℚ) ^ 970 = b at *
    have product : (m : ℚ) * 2 ^ k ≤ 2 ^ 53 * b := mul_le_mul high' small unit.le (by positivity)
    exact iff_of_true (by linarith) (by linarith)
  · have topmost : (2 : ℚ) ^ (971 : ℤ) = 2 * 2 ^ 970 := by
      rw [show (971 : ℤ) = ((971 : ℕ) : ℤ) from rfl, zpow_natCast, pow_succ']
    have mantissa := h.mantissa_lt_iff
    rw [topmost] at mantissa ⊢
    generalize (2 : ℚ) ^ 970 = b at half mantissa ⊢
    have product : (m : ℚ) * (2 * b) < 2 ^ 54 * b ↔ (m : ℚ) < 2 ^ 53 := by
      rw [show (2 : ℚ) ^ 54 * b = 2 ^ 53 * (2 * b) by ring, mul_lt_mul_iff_left₀ (by positivity)]
    have bound : (2 ^ 53 - 1 / 2) * (2 * b) = 2 ^ 54 * b - b := by ring
    rw [product, ← bound, ← mantissa]
    exact_mod_cast Iff.rfl
  · have large : 4 * (2 : ℚ) ^ 970 ≤ 2 ^ k := by
      rw [show (4 : ℚ) = 2 ^ 2 by norm_num, ← pow_add, ← zpow_natCast]
      exact zpow_le_zpow_right₀ one_le_two (by push_cast; omega)
    generalize (2 : ℚ) ^ 970 = b at *
    have product : (2 : ℚ) ^ 52 * 2 ^ k ≤ m * 2 ^ k := mul_le_mul_of_nonneg_right low' unit.le
    exact iff_of_false (by linarith) (by linarith)

/-- The number that a binary fraction is. -/
def Binary.value (b : Binary) : ℚ :=
  b.mantissa * 2 ^ b.scale

/-- The range of doubles ends below `2 ^ 1024`. -/
theorem Binary.whole?_eq (b : Binary) (width : b.mantissa ≤ 2 ^ 53) :
    b.whole? = if b.value < 2 ^ 1024 then some ⌊b.value⌋₊ else none := by
  unfold Binary.whole? Binary.value
  split
  · rename_i nonneg
    obtain ⟨n, scale⟩ := Int.eq_ofNat_of_zero_le nonneg
    have value : (b.mantissa : ℚ) * 2 ^ b.scale = ((b.mantissa * 2 ^ n : ℕ) : ℚ) := by
      rw [scale, zpow_natCast]
      push_cast
      rfl
    have shifted : b.mantissa <<< b.scale.toNat = b.mantissa * 2 ^ n := by
      rw [scale, Int.toNat_natCast, Nat.shiftLeft_eq]
    have power (n : ℕ) : ((1 <<< n : ℕ) : ℚ) = 2 ^ n := by
      rw [Nat.shiftLeft_eq, one_mul]
      push_cast
      rfl
    have within : b.mantissa * 2 ^ n < 1 <<< 1024 ↔ ((b.mantissa * 2 ^ n : ℕ) : ℚ) < 2 ^ 1024 := by
      rw [← power, Nat.cast_lt]
    rw [value, Nat.floor_natCast, shifted]
    exact if_congr within rfl rfl
  · rename_i negative
    obtain ⟨n, scale⟩ : ∃ n : ℕ, b.scale = -n := ⟨(-b.scale).toNat, by omega⟩
    have value : (b.mantissa : ℚ) * 2 ^ b.scale = b.mantissa / (2 ^ n : ℕ) := by
      rw [scale, zpow_neg, zpow_natCast, div_eq_mul_inv]
      push_cast
      rfl
    have width' : (b.mantissa : ℚ) ≤ 2 ^ 53 := by exact_mod_cast width
    have within : (b.mantissa : ℚ) / (2 ^ n : ℕ) < 2 ^ 1024 := by
      calc (b.mantissa : ℚ) / (2 ^ n : ℕ)
        _ ≤ b.mantissa := div_le_self (by positivity) (by exact_mod_cast Nat.one_le_two_pow)
        _ ≤ 2 ^ 53 := width'
        _ < 2 ^ 1024 := pow_lt_pow_right₀ one_lt_two (by decide)
    rw [value, if_pos within, Nat.floor_div_eq_div, scale, neg_neg, Int.toNat_natCast,
      Nat.shiftRight_eq_div_pow]

end WikiQuery.Number

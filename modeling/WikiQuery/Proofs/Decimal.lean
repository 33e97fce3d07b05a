import Mathlib.Data.List.TakeWhile
import WikiQuery.Proofs.Numeral
import WikiQuery.Proofs.Truncation

/-!
Decimal numerals: a sign or none, digits, and digits behind a point or no point. The integer that is read
from such a numeral is its value truncated towards zero, or the nearest integer of 64 bits to that, unless
the value is beyond the range of doubles or has digits behind a point that rounding carries away.
-/

set_option autoImplicit false

namespace WikiQuery.Number

variable {base n m : Nat} {unit : ℤ} {x : ℚ} {s : String} {cs ds sign front fraction : List Char}

/-- A sign or none, and the unit that it stands for. -/
inductive IsSign : List Char → ℤ → Prop
  | none : IsSign [] 1
  | plus : IsSign ['+'] 1
  | minus : IsSign ['-'] (-1)

/-- A sign or none, digits, and behind a point more digits or no point, and the number they write. -/
inductive IsDecimal : List Char → ℚ → Prop
  | whole {sign front : List Char} {unit : ℤ} {n : Nat} :
      IsSign sign unit → IsNumeral 10 front n → IsDecimal (sign ++ front) (unit * n)
  | point {sign front fraction : List Char} {unit : ℤ} {n m : Nat} :
      IsSign sign unit → IsNumeral 10 front n → IsNumeral 10 fraction m →
        IsDecimal (sign ++ (front ++ '.' :: fraction)) (unit * (n + m / 10 ^ fraction.length))

theorem IsNumeral.append (h : IsNumeral base cs n) (h' : IsNumeral base ds m) :
    IsNumeral base (cs ++ ds) (n * base ^ ds.length + m) := by
  obtain ⟨inhabited, values, digits, rfl⟩ := h
  obtain ⟨-, values', digits', rfl⟩ := h'
  refine ⟨List.append_ne_nil_of_left_ne_nil inhabited ds, values ++ values',
    List.rel_append digits digits', ?_⟩
  rw [List.reverse_append, Nat.ofDigits_append, List.length_reverse, digits'.length_eq]
  ring

theorem isNumeral_ten_pow (n : Nat) : IsNumeral 10 ('1' :: List.replicate n '0') (10 ^ n) := by
  induction n with
  | zero => exact (digits?_eq_some_iff (by decide)).mp (by decide)
  | succ n ih =>
    have zero : IsNumeral 10 ['0'] 0 := (digits?_eq_some_iff (by decide)).mp (by decide)
    have longer := ih.append zero
    rwa [List.cons_append, ← List.replicate_succ', List.length_singleton, pow_one, add_zero,
      ← pow_succ] at longer

theorem lt_of_forall₂_isDigit {values : List Nat} (digits : List.Forall₂ (IsDigit base) cs values) :
    ∀ value ∈ values.reverse, value < base := by
  intro value member
  rw [List.mem_reverse] at member
  induction digits with
  | nil => cases member
  | cons digit digits ih =>
    rcases List.mem_cons.mp member with rfl | later
    · exact digit.1
    · exact ih later

theorem IsNumeral.lt_pow (h : IsNumeral base cs n) (two : 1 < base) : n < base ^ cs.length := by
  obtain ⟨-, values, digits, rfl⟩ := h
  rw [digits.length_eq, ← List.length_reverse]
  exact Nat.ofDigits_lt_base_pow_length two (lt_of_forall₂_isDigit digits)

theorem IsNumeral.isDigit_of_mem (h : IsNumeral 10 cs n) : ∀ c ∈ cs, isDigit c = true := by
  intro c member
  obtain ⟨value, digit⟩ := h.exists_isDigit member
  rw [isDigit, (digitValue?_eq_some_iff (by decide)).mpr digit, Option.isSome_some]

theorem IsNumeral.digitsValue_eq (h : IsNumeral 10 cs n) : digitsValue cs = n := by
  have read := (digits?_eq_some_iff (by decide)).mpr h
  rw [digits?, Option.ite_none_left_eq_some] at read
  rw [digitsValue, read.2, Option.getD_some]

theorem isDigit_point : isDigit '.' = false := by decide

/-- A point does not belong to the digits in front of it. -/
theorem span_point (digits : ∀ c ∈ front, isDigit c = true) (ds : List Char) :
    (front ++ '.' :: ds).takeWhile isDigit = front ∧
      (front ++ '.' :: ds).dropWhile isDigit = '.' :: ds := by
  rw [List.takeWhile_append_of_pos digits, List.dropWhile_append_of_pos digits,
    List.takeWhile_cons_of_neg (by simp [isDigit_point]),
    List.dropWhile_cons_of_neg (by simp [isDigit_point]), List.append_nil]
  exact ⟨rfl, rfl⟩

theorem span_digits (digits : ∀ c ∈ front, isDigit c = true) :
    front.takeWhile isDigit = front ∧ front.dropWhile isDigit = [] :=
  ⟨List.takeWhile_eq_self_iff.mpr digits, List.dropWhile_eq_nil_iff.mpr digits⟩

theorem magnitude?_whole (negative : Bool) (digits : IsNumeral 10 front n) :
    magnitude? negative front = some ⟨negative, n, 0⟩ := by
  obtain ⟨taken, dropped⟩ := span_digits digits.isDigit_of_mem
  have inhabited : front.isEmpty = false := List.isEmpty_eq_false_iff.mpr digits.1
  simp [magnitude?, taken, dropped, inhabited, exponent?, digits.digitsValue_eq]

theorem magnitude?_point (negative : Bool) (digits : IsNumeral 10 front n)
    (digits' : IsNumeral 10 fraction m) :
    magnitude? negative (front ++ '.' :: fraction) =
      some ⟨negative, n * 10 ^ fraction.length + m, -(fraction.length : ℤ)⟩ := by
  obtain ⟨taken, dropped⟩ := span_point digits.isDigit_of_mem fraction
  obtain ⟨taken', dropped'⟩ := span_digits digits'.isDigit_of_mem
  have inhabited : front.isEmpty = false := List.isEmpty_eq_false_iff.mpr digits.1
  simp [magnitude?, taken, dropped, taken', dropped', inhabited, exponent?,
    (digits.append digits').digitsValue_eq]

theorem not_sign_of_isDigit {c : Char} (digit : isDigit c = true) : c ≠ '-' ∧ c ≠ '+' := by
  constructor <;> rintro rfl <;> exact absurd digit (by decide)

theorem IsNumeral.exists_cons (h : IsNumeral 10 cs n) :
    ∃ c rest, cs = c :: rest ∧ isDigit c = true := by
  obtain ⟨c, rest, rfl⟩ := List.exists_cons_of_ne_nil h.1
  exact ⟨c, rest, rfl, h.isDigit_of_mem c List.mem_cons_self⟩

/-- Behind a sign or none, what begins with a digit is read as a magnitude. -/
theorem numeral?_append (h : IsSign sign unit) {c : Char} (digit : isDigit c = true)
    (cs : List Char) :
    ∃ negative : Bool, (if negative then -1 else 1) = unit ∧
      numeral? (sign ++ c :: cs) = magnitude? negative (c :: cs) := by
  obtain ⟨minus, plus⟩ := not_sign_of_isDigit digit
  cases h with
  | none =>
    refine ⟨false, rfl, ?_⟩
    rw [List.nil_append]
    unfold numeral?
    split
    · rename_i same
      exact absurd (List.cons.inj same).1 minus
    · rename_i same
      exact absurd (List.cons.inj same).1 plus
    · rfl
  | plus => exact ⟨false, rfl, rfl⟩
  | minus => exact ⟨true, rfl, rfl⟩

theorem signed?_append (h : IsSign sign unit) {c : Char} (digit : isDigit c = true)
    (cs : List Char) :
    signed? (sign ++ c :: cs) = (digits? 10 (c :: cs)).map fun n : Nat => unit * (n : ℤ) := by
  obtain ⟨minus, plus⟩ := not_sign_of_isDigit digit
  cases h with
  | none =>
    simp only [one_mul, List.nil_append]
    unfold signed?
    split
    · rename_i same
      exact absurd (List.cons.inj same).1 minus
    · rename_i same
      exact absurd (List.cons.inj same).1 plus
    · rfl
  | plus =>
    simp only [one_mul]
    rfl
  | minus =>
    simp only [neg_one_mul, List.singleton_append, signed?]
    cases digits? 10 (c :: cs) <;> rfl

/-- A decimal is read as a numeral of its value. -/
theorem IsDecimal.numeral?_eq (h : IsDecimal cs x) : ∃ y, numeral? cs = some y ∧ y.value = x := by
  cases h with
  | @whole sign front unit n sign' digits =>
    obtain ⟨c, rest, rfl, digit⟩ := digits.exists_cons
    obtain ⟨negative, rfl, read⟩ := numeral?_append sign' digit rest
    refine ⟨_, read.trans (magnitude?_whole negative digits), ?_⟩
    simp [Numeral.value]
  | @point sign front fraction unit n m sign' digits digits' =>
    obtain ⟨c, rest, rfl, digit⟩ := digits.exists_cons
    obtain ⟨negative, rfl, read⟩ := numeral?_append sign' digit (rest ++ '.' :: fraction)
    refine ⟨_, read.trans (magnitude?_point negative digits digits'), ?_⟩
    simp only [Numeral.value, zpow_neg, zpow_natCast]
    push_cast
    field_simp

/-- A decimal is an integer of its value if it has no point, and none if it has. -/
theorem IsDecimal.signed?_eq (h : IsDecimal cs x) :
    ('.' ∉ cs ∧ ∃ n, signed? cs = some n ∧ (n : ℚ) = x) ∨ '.' ∈ cs ∧ signed? cs = none := by
  cases h with
  | @whole sign front unit n sign' digits =>
    refine .inl ⟨?_, unit * n, ?_, by push_cast; rfl⟩
    · intro member
      rcases List.mem_append.mp member with early | late
      · cases sign' <;> simp at early
      · have := digits.isDigit_of_mem _ late
        rw [isDigit_point] at this
        cases this
    · obtain ⟨c, rest, rfl, digit⟩ := digits.exists_cons
      rw [signed?_append sign' digit, (digits?_eq_some_iff (by decide)).mpr digits, Option.map_some]
  | @point sign front fraction unit n m sign' digits digits' =>
    refine .inr ⟨by simp, ?_⟩
    obtain ⟨c, rest, rfl, digit⟩ := digits.exists_cons
    have unread : digits? 10 (c :: (rest ++ '.' :: fraction)) = none := by
      rw [Option.eq_none_iff_forall_ne_some]
      intro n read
      have numeral := (digits?_eq_some_iff (by decide)).mp read
      have := numeral.isDigit_of_mem '.' (by simp)
      rw [isDigit_point] at this
      cases this
    rw [List.cons_append, signed?_append sign' digit, unread, Option.map_none]

/-- A decimal of few digits is a quotient of few digits. -/
theorem IsDecimal.exists_quotient (h : IsDecimal cs x) :
    ∃ num den : Nat, 0 < den ∧ |x| = num / den ∧ num < 10 ^ cs.countP isDigit := by
  have unit_abs {sign : List Char} {unit : ℤ} (h : IsSign sign unit) : |(unit : ℚ)| = 1 := by
    cases h <;> simp
  have count {cs : List Char} {n : Nat} (h : IsNumeral 10 cs n) : cs.countP isDigit = cs.length :=
    List.countP_eq_length.mpr h.isDigit_of_mem
  cases h with
  | @whole sign front unit n sign' digits =>
    refine ⟨n, 1, Nat.one_pos, by simp [abs_mul, unit_abs sign'], ?_⟩
    rw [List.countP_append, count digits]
    exact lt_of_lt_of_le (digits.lt_pow (by decide)) (Nat.pow_le_pow_right (by decide) (by omega))
  | @point sign front fraction unit n m sign' digits digits' =>
    refine ⟨n * 10 ^ fraction.length + m, 10 ^ fraction.length, by positivity, ?_, ?_⟩
    · rw [abs_mul, unit_abs sign', one_mul, abs_of_nonneg (by positivity)]
      push_cast
      field_simp
    · have all := (digits.append digits').lt_pow (by decide)
      rw [List.length_append] at all
      rw [List.countP_append, List.countP_append, List.countP_cons, count digits, count digits']
      exact lt_of_lt_of_le all (Nat.pow_le_pow_right (by decide) (by omega))

theorem isDecimal_ten_pow (n : Nat) : IsDecimal ('1' :: List.replicate n '0') (10 ^ n) := by
  have decimal := IsDecimal.whole .none (isNumeral_ten_pow n)
  rwa [List.nil_append, Int.cast_one, one_mul, Nat.cast_pow, Nat.cast_ofNat] at decimal

theorem trimmed_ten_pow (n : Nat) :
    Text.trimmed ('1' :: List.replicate n '0') = '1' :: List.replicate n '0' := by
  refine Text.trimmed_eq_self_iff.mpr ⟨fun c first => ?_, fun c last => ?_⟩
  · rw [List.head?_cons, Option.some.injEq] at first
    rw [← first]
    decide
  · rcases List.mem_cons.mp (List.mem_of_getLast? last) with rfl | member
    · decide
    · rw [List.eq_of_mem_replicate member]
      decide

theorem far_of_outside {n : ℤ} (outside : ¬(minInt64 ≤ n ∧ n ≤ maxInt64)) : 2 ^ 63 ≤ |(n : ℚ)| := by
  have far : 2 ^ 63 ≤ |n| := by
    simp only [minInt64, maxInt64] at outside
    rcases abs_cases n with ⟨same, _⟩ | ⟨same, _⟩ <;> omega
  exact_mod_cast far

theorem abs_lt_overflowBound {n : ℤ} (lower : minInt64 ≤ n) (upper : n ≤ maxInt64) :
    |(n : ℚ)| < overflowBound := by
  have near : |n| ≤ 2 ^ 63 := by
    simp only [minInt64, maxInt64] at lower upper
    exact abs_le.mpr ⟨by omega, by omega⟩
  have near' : |(n : ℚ)| ≤ 2 ^ 63 := by exact_mod_cast near
  exact lt_of_le_of_lt near' (two_pow_lt_overflowBound (by decide))

/-- A decimal of at most fifteen digits is not moved. -/
theorem IsDecimal.unmoved_of_few (h : IsDecimal cs x) (few : cs.countP isDigit ≤ 15) : Unmoved x := by
  obtain ⟨num, den, pos, quotient, short⟩ := h.exists_quotient
  refine unmoved_of_short pos quotient ?_
  calc num
    _ < 10 ^ cs.countP isDigit := short
    _ ≤ 10 ^ 15 := Nat.pow_le_pow_right (by decide) few
    _ < 2 ^ 53 := by norm_num

/-- A decimal is read as the integer of 64 bits that it is, or else as a numeral. -/
theorem numeric?_of_isDecimal (decimal : IsDecimal (Text.trimmed s.toList) x) :
    (overflowBound ≤ |x| → numeric? s = none) ∧
      (|x| < overflowBound →
        ∃ n, numeric? s = some n ∧
          ('.' ∉ Text.trimmed s.toList ∨ Unmoved x → n = clampInt64 (truncated x))) := by
  have text : (Text.trim s).toList = Text.trimmed s.toList := String.toList_ofList
  obtain ⟨y, numeral, rfl⟩ := decimal.numeral?_eq
  have integers := decimal.signed?_eq
  have filtered : int64? (Text.trim s) =
      (signed? (Text.trimmed s.toList)).filter fun n => decide (minInt64 ≤ n ∧ n ≤ maxInt64) := by
    rw [int64?, text]
  cases integer : int64? (Text.trim s) with
  | some n =>
    have read : numeric? s = some n := by
      simp only [numeric?, integer]
    rw [filtered, Option.filter_eq_some_iff, decide_eq_true_iff] at integer
    obtain ⟨signed, lower, upper⟩ := integer
    obtain ⟨-, n', signed', value⟩ | ⟨-, unread⟩ := integers
    · obtain rfl : n = n' := Option.some.inj (signed.symm.trans signed')
      have inside := abs_lt_overflowBound lower upper
      rw [← value, truncated_intCast, clampInt64_of_mem lower upper]
      exact ⟨fun beyond => absurd inside (not_lt.mpr beyond), fun _ => ⟨n, read, fun _ => rfl⟩⟩
    · rw [unread] at signed
      cases signed
  | none =>
    have read : numeric? s = y.whole? := by
      simp only [numeric?, integer, text, numeral, Option.bind_some]
    obtain ⟨beyond, within⟩ := y.whole?_spec
    rw [read]
    refine ⟨beyond, fun inside => ?_⟩
    obtain ⟨n, whole, exact⟩ := within inside
    refine ⟨n, whole, fun kept => exact ?_⟩
    rcases kept with pointless | unmoved
    · obtain ⟨-, n', signed, value⟩ | ⟨point, -⟩ := integers
      · rw [filtered, signed, Option.filter_eq_none_iff] at integer
        have outside := integer n' rfl
        rw [decide_eq_true_iff] at outside
        exact unmoved_of_far (value ▸ far_of_outside outside)
      · exact absurd point pointless
    · exact unmoved

/-- Where a decimal is not beyond the range of doubles, an integer is read from it, whatever the default.
It is the value truncated towards zero, or the nearest integer of 64 bits to that, without a point, with at
most fifteen digits, beyond the integers of 64 bits, and in general where rounding does not matter. -/
theorem coerceInteger_of_isDecimal (decimal : IsDecimal (Text.trimmed s.toList) x) :
    (overflowBound ≤ |x| → ∀ default, coerceInteger s default = default) ∧
      (|x| < overflowBound →
        ∃ n, (∀ default, coerceInteger s default = some n) ∧
          ('.' ∉ Text.trimmed s.toList ∨ (Text.trimmed s.toList).countP isDigit ≤ 15 ∨
              2 ^ 63 ≤ |x| ∨ Unmoved x →
            n = clampInt64 (truncated x))) := by
  obtain ⟨beyond, within⟩ := numeric?_of_isDecimal decimal
  constructor
  · intro far default
    rw [coerceInteger, beyond far, Option.none_or]
  · intro inside
    obtain ⟨n, read, exact⟩ := within inside
    refine ⟨n, fun default => by rw [coerceInteger, read, Option.some_or], ?_⟩
    rintro (pointless | few | far | unmoved)
    · exact exact (.inl pointless)
    · exact exact (.inr (decimal.unmoved_of_few few))
    · exact exact (.inr (unmoved_of_far far))
    · exact exact (.inr unmoved)

/-- The case of ` -12.75 `. -/
theorem coerceInteger_of_isDecimal_point :
    IsDecimal (Text.trimmed " -12.75 ".toList) (-51 / 4) ∧ |(-51 / 4 : ℚ)| < overflowBound ∧
      coerceInteger " -12.75 " none = some (-12) := by
  have front : IsNumeral 10 ['1', '2'] 12 := (digits?_eq_some_iff (by decide)).mp (by decide)
  have fraction : IsNumeral 10 ['7', '5'] 75 := (digits?_eq_some_iff (by decide)).mp (by decide)
  have trimmed : Text.trimmed " -12.75 ".toList = ['-'] ++ (['1', '2'] ++ '.' :: ['7', '5']) := by
    decide
  have decimal : IsDecimal (Text.trimmed " -12.75 ".toList) (-51 / 4) := by
    rw [trimmed]
    convert IsDecimal.point .minus front fraction using 1
    norm_num
  have inside : |(-51 / 4 : ℚ)| < overflowBound :=
    lt_trans (by norm_num [abs_of_neg]) (two_pow_lt_overflowBound (p := 4) (by decide))
  obtain ⟨n, read, exact⟩ := (coerceInteger_of_isDecimal decimal).2 inside
  have value : n = -12 := by
    rw [exact (.inr (.inl (by rw [trimmed]; decide)))]
    have negative : ¬(0 : ℚ) ≤ -51 / 4 := by norm_num
    have whole : truncated (-51 / 4) = -12 := by
      rw [truncated, if_neg negative, Int.ceil_eq_iff]
      norm_num
    rw [whole]
    decide
  exact ⟨decimal, inside, value ▸ read none⟩

/-- Beyond the range of doubles the default is used, and a long fraction can be rounded up to one. -/
theorem coerceInteger_inexact :
    (IsDecimal (Text.trimmed (String.ofList ('1' :: List.replicate 400 '0')).toList) (10 ^ 400) ∧
      clampInt64 (truncated (10 ^ 400)) = maxInt64 ∧
      coerceInteger (String.ofList ('1' :: List.replicate 400 '0')) (some 7) = some 7) ∧
    IsDecimal (Text.trimmed "0.99999999999999999".toList) (99999999999999999 / 10 ^ 17) ∧
      clampInt64 (truncated (99999999999999999 / 10 ^ 17)) = 0 ∧
      coerceInteger "0.99999999999999999" (some 7) = some 1 := by
  have decimal : IsDecimal (Text.trimmed (String.ofList ('1' :: List.replicate 400 '0')).toList)
      (10 ^ 400) := by
    rw [String.toList_ofList, trimmed_ten_pow]
    exact isDecimal_ten_pow 400
  have far : overflowBound ≤ |(10 : ℚ) ^ 400| := by
    rw [abs_of_pos (by positivity)]
    calc overflowBound
      _ ≤ 2 ^ 1024 := sub_le_self _ (by positivity)
      _ ≤ 2 ^ (3 * 400) := pow_le_pow_right₀ one_le_two (by decide)
      _ = (2 ^ 3) ^ 400 := pow_mul 2 3 400
      _ ≤ 10 ^ 400 := pow_le_pow_left₀ (by norm_num) (by norm_num) 400
  have large : (2 : ℚ) ^ 63 ≤ 10 ^ 400 :=
    calc (2 : ℚ) ^ 63
      _ ≤ 10 ^ 63 := pow_le_pow_left₀ (by norm_num) (by norm_num) 63
      _ ≤ 10 ^ 400 := pow_le_pow_right₀ (by norm_num) (by decide)
  have front : IsNumeral 10 ['0'] 0 := (digits?_eq_some_iff (by decide)).mp (by decide)
  have fraction : IsNumeral 10 (List.replicate 17 '9') 99999999999999999 :=
    (digits?_eq_some_iff (by decide)).mp (by decide)
  have trimmed : Text.trimmed "0.99999999999999999".toList =
      [] ++ (['0'] ++ '.' :: List.replicate 17 '9') := by
    decide
  have decimal' : IsDecimal (Text.trimmed "0.99999999999999999".toList)
      (99999999999999999 / 10 ^ 17) := by
    rw [trimmed]
    convert IsDecimal.point .none front fraction using 1
    norm_num
  have whole : truncated (99999999999999999 / 10 ^ 17) = 0 := by
    rw [truncated_of_nonneg (by positivity), Int.floor_eq_iff]
    norm_num
  refine ⟨⟨decimal, clampInt64_truncated_of_le large, ?_⟩, decimal', by rw [whole]; decide, by decide⟩
  rw [coerceInteger, (numeric?_of_isDecimal decimal).1 far, Option.none_or]

end WikiQuery.Number

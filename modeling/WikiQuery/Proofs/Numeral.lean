import Mathlib.Data.List.Forall2
import Mathlib.Data.Nat.Digits.Defs
import Mathlib.Tactic.Ring
import Mathlib.Tactic.SplitIfs
import WikiQuery.Number.Digits

/-!
Numerals: which characters are digits of a base, and the number that a row of them stands for. A row
of characters is read as a number if and only if it is a numeral of that number.
-/

set_option autoImplicit false

namespace WikiQuery.Number

variable {base value n : Nat} {c : Char} {cs : List Char}

/-- A character is a digit of a base, with this value. From ten on the digits are letters, of either
case. -/
def IsDigit (base : Nat) (c : Char) (value : Nat) : Prop :=
  value < base ∧ (c = value.digitChar ∨ c = value.digitChar.toUpper)

/-- One digit or more that stand for a number, the one of the highest weight in front. -/
def IsNumeral (base : Nat) (cs : List Char) (n : Nat) : Prop :=
  cs ≠ [] ∧ ∃ values, List.Forall₂ (IsDigit base) cs values ∧ n = Nat.ofDigits base values.reverse

private theorem toNat_digitChar :
    ∀ value < 16, value.digitChar.toNat = (if value < 10 then 0x30 else 0x57) + value ∧
      value.digitChar.toUpper.toNat = (if value < 10 then 0x30 else 0x37) + value := by
  decide

theorem digitValue?_eq_some_iff (small : base ≤ 16) :
    digitValue? base c = some value ↔ IsDigit base c value := by
  unfold IsDigit
  by_cases bound : value < base
  · obtain ⟨lower, upper⟩ := toNat_digitChar value (by omega)
    rw [← Char.toNat_inj, ← Char.toNat_inj, lower, upper]
    simp only [digitValue?, Option.ite_none_right_eq_some, Option.some.injEq]
    split_ifs <;> omega
  · simp only [digitValue?, Option.ite_none_right_eq_some, Option.some.injEq]
    omega

/-- The digits in front are those of the number that was read before. -/
theorem digitsFrom_eq_some_iff (small : base ≤ 16) {start : Nat} :
    digitsFrom base start cs = some n ↔
      ∃ values, List.Forall₂ (IsDigit base) cs values ∧
        n = Nat.ofDigits base (start :: values).reverse := by
  induction cs generalizing start with
  | nil => simp [digitsFrom, List.forall₂_nil_left_iff, eq_comm]
  | cons c cs ih =>
    have shift : ∀ (value : Nat) (values : List Nat),
        Nat.ofDigits base ((start * base + value) :: values).reverse =
          Nat.ofDigits base (start :: value :: values).reverse := by
      intro value values
      simp only [List.reverse_cons, Nat.ofDigits_append, Nat.ofDigits_singleton,
        List.length_append, List.length_singleton]
      ring
    rw [digitsFrom, Option.bind_eq_some_iff]
    simp only [ih, digitValue?_eq_some_iff small]
    constructor
    · rintro ⟨value, digit, values, digits, rfl⟩
      exact ⟨value :: values, .cons digit digits, shift value values⟩
    · rintro ⟨_, matched, rfl⟩
      obtain ⟨value, values, digit, digits, rfl⟩ := List.forall₂_cons_left_iff.mp matched
      exact ⟨value, digit, values, digits, (shift value values).symm⟩

theorem digits?_eq_some_iff (small : base ≤ 16) :
    digits? base cs = some n ↔ IsNumeral base cs n := by
  simp only [digits?, List.isEmpty_iff, Option.ite_none_left_eq_some, IsNumeral,
    digitsFrom_eq_some_iff small, List.reverse_cons, Nat.ofDigits_append_zero]

/-- A numeral holds nothing but digits. -/
theorem IsNumeral.exists_isDigit (h : IsNumeral base cs n) (member : c ∈ cs) :
    ∃ value, IsDigit base c value := by
  obtain ⟨-, values, digits, -⟩ := h
  induction digits with
  | nil => cases member
  | @cons d value ds values digit digits ih =>
    rcases List.mem_cons.mp member with rfl | later
    · exact ⟨value, digit⟩
    · exact ih later

theorem not_mem_of_isNumeral (small : base ≤ 16) (h : IsNumeral base cs n)
    (other : digitValue? base c = none) : c ∉ cs := by
  intro member
  obtain ⟨value, digit⟩ := h.exists_isDigit member
  rw [(digitValue?_eq_some_iff small).mpr digit] at other
  cases other

/-- A number without a minus sign is a numeral, behind a plus sign or behind none. -/
theorem unsigned?_eq_some_iff (small : base ≤ 16) :
    unsigned? base cs = some n ↔
      ∃ sign digits, (sign = [] ∨ sign = ['+']) ∧ IsNumeral base digits n ∧ cs = sign ++ digits := by
  have plus : digitValue? base '+' = none := by
    simp [digitValue?]
  constructor
  · intro h
    unfold unsigned? at h
    split at h
    · exact ⟨['+'], _, .inr rfl, (digits?_eq_some_iff small).mp h, rfl⟩
    · exact ⟨[], cs, .inl rfl, (digits?_eq_some_iff small).mp h, rfl⟩
  · rintro ⟨sign, digits, rfl | rfl, numeral, rfl⟩
    · have unsigned := not_mem_of_isNumeral small numeral plus
      have read := (digits?_eq_some_iff small).mpr numeral
      unfold unsigned?
      split
      · simp at unsigned
      · exact read
    · exact (digits?_eq_some_iff small).mpr numeral

end WikiQuery.Number

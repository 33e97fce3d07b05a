import WikiQuery.Proofs.Decimal

/-!
Numbers in digits of a fixed width. The digits of a number are a numeral of it, also behind zeros, and
there are exactly as many of them as the width asks for if the number has no more.
-/

set_option autoImplicit false

namespace WikiQuery.Number

variable {base n width : Nat} {c : Char} {cs : List Char}

theorem isNumeral_digitChar (small : n < 10) : IsNumeral 10 [n.digitChar] n :=
  ⟨List.cons_ne_nil _ _, [n], .cons ⟨small, .inl rfl⟩ .nil, by simp⟩

theorem isNumeral_decimalDigits (n : Nat) : IsNumeral 10 (decimalDigits n) n := by
  induction n using Nat.strongRecOn with
  | ind n ih =>
    unfold decimalDigits at ih ⊢
    by_cases small : n < 10
    · rw [Nat.toDigits_of_lt_base small]
      exact isNumeral_digitChar small
    · -- The last digit stands behind the digits of the tenth.
      rw [Nat.toDigits_of_base_le (by decide) (Nat.le_of_not_lt small)]
      have front := ih (n / 10) (by omega)
      have last := isNumeral_digitChar (Nat.mod_lt n (show 0 < 10 by decide))
      have whole := front.append last
      rwa [List.length_singleton, pow_one, Nat.div_add_mod' n 10] at whole

theorem IsNumeral.behind_zeros (h : IsNumeral 10 cs n) (count : Nat) :
    IsNumeral 10 (List.replicate count '0' ++ cs) n := by
  induction count with
  | zero => exact h
  | succ count ih =>
    have longer := (isNumeral_digitChar (show 0 < 10 by decide)).append ih
    rwa [zero_mul, zero_add, List.singleton_append] at longer

theorem isNumeral_paddedDigits (width n : Nat) : IsNumeral 10 (paddedDigits width n) n :=
  (isNumeral_decimalDigits n).behind_zeros _

theorem le_length_paddedDigits (width n : Nat) : width ≤ (paddedDigits width n).length := by
  rw [paddedDigits, List.length_append, List.length_replicate]
  omega

theorem length_paddedDigits (positive : 0 < width) (small : n < 10 ^ width) :
    (paddedDigits width n).length = width := by
  have few : (decimalDigits n).length ≤ width :=
    (Nat.length_toDigits_le_iff (by decide) positive).mpr small
  rw [paddedDigits, List.length_append, List.length_replicate]
  omega

/-- Digits, at least one, are a numeral of their value. -/
theorem isNumeral_digitsValue (inhabited : cs ≠ []) (digits : ∀ c ∈ cs, isDigit c = true) :
    IsNumeral 10 cs (digitsValue cs) := by
  have values : ∃ values, List.Forall₂ (IsDigit 10) cs values := by
    clear inhabited
    induction cs with
    | nil => exact ⟨[], .nil⟩
    | cons c cs ih =>
      obtain ⟨values, rest⟩ := ih fun d later => digits d (List.mem_cons_of_mem c later)
      obtain ⟨value, read⟩ := Option.isSome_iff_exists.mp (digits c List.mem_cons_self)
      exact ⟨value :: values, .cons ((digitValue?_eq_some_iff (by decide)).mp read) rest⟩
  obtain ⟨values, matched⟩ := values
  have numeral : IsNumeral 10 cs (Nat.ofDigits 10 values.reverse) := ⟨inhabited, values, matched, rfl⟩
  rwa [numeral.digitsValue_eq]

private theorem leftUnique_isDigit : Relator.LeftUnique (IsDigit 10) := by
  have caseless : ∀ value < 10, value.digitChar.toUpper = value.digitChar := by decide
  have written : ∀ {c value}, IsDigit 10 c value → c = value.digitChar := by
    rintro c value ⟨small, rfl | rfl⟩
    · rfl
    · exact caseless value small
  exact fun c d value digit digit' => (written digit).trans (written digit').symm

theorem IsNumeral.eq_of_length_eq {ds : List Char} (h : IsNumeral 10 cs n) (h' : IsNumeral 10 ds n)
    (same : cs.length = ds.length) : cs = ds := by
  obtain ⟨-, values, digits, rfl⟩ := h
  obtain ⟨-, values', digits', equal⟩ := h'
  have lengths : values.reverse.length = values'.reverse.length := by
    rw [List.length_reverse, List.length_reverse, ← digits.length_eq, ← digits'.length_eq, same]
  have reversed := Nat.ofDigits_inj_of_len_eq (by decide) lengths (lt_of_forall₂_isDigit digits)
    (lt_of_forall₂_isDigit digits') equal
  obtain rfl := List.reverse_injective reversed
  exact List.left_unique_forall₂' leftUnique_isDigit digits digits'

/-- A digit is no white space, and it has no case. -/
theorem plain_of_isDigit (digit : isDigit c = true) :
    Text.isBlank c = false ∧ c.toUpper = c := by
  have plain : ∀ value < 10, (Text.isBlank value.digitChar = false ∧
      value.digitChar.toUpper = value.digitChar) ∧
      Text.isBlank value.digitChar.toUpper = false ∧
      value.digitChar.toUpper.toUpper = value.digitChar.toUpper := by
    decide
  obtain ⟨value, read⟩ := Option.isSome_iff_exists.mp digit
  obtain ⟨small, rfl | rfl⟩ := (digitValue?_eq_some_iff (by decide)).mp read
  · exact (plain value small).1
  · exact (plain value small).2

end WikiQuery.Number

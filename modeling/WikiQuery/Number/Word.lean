import WikiQuery.Number.Digits

/-!
Integers of bounded width. A text is read as such an integer only if it is one exactly: a sign where
the width has one, then digits, and a value within the bounds.
-/

set_option autoImplicit false

namespace WikiQuery.Number

/-- The least integer of 64 bits with a sign. -/
def minInt64 : Int := -9223372036854775808

/-- The greatest integer of 64 bits with a sign. -/
def maxInt64 : Int := 9223372036854775807

/-- The nearest integer of 64 bits with a sign. -/
def clampInt64 (n : Int) : Int :=
  max minInt64 (min maxInt64 n)

theorem clampInt64_of_mem {n : Int} (h₁ : minInt64 ≤ n) (h₂ : n ≤ maxInt64) : clampInt64 n = n := by
  unfold clampInt64
  omega

/-- An integer: digits, with a sign in front or none. -/
def signed? : List Char → Option Int
  | '-' :: cs => (digits? 10 cs).map fun n => -(n : Int)
  | '+' :: cs => (digits? 10 cs).map Int.ofNat
  | cs => (digits? 10 cs).map Int.ofNat

/-- An integer of 64 bits with a sign. -/
def int64? (s : String) : Option Int :=
  (signed? s.toList).filter fun n => decide (minInt64 ≤ n ∧ n ≤ maxInt64)

/-- A number of at most eight bits. -/
def byte? (s : String) : Option Nat :=
  (unsigned? 10 s.toList).filter fun n => decide (n ≤ 255)

end WikiQuery.Number

/-!
Numbers written in digits: the value of a run of digits, with or without a sign in front, and the
decimal digits of a number.
-/

set_option autoImplicit false

namespace WikiQuery.Number

/-- The value of a digit in a base of at most sixteen. -/
def digitValue? (base : Nat) (c : Char) : Option Nat :=
  let code := c.toNat
  let value :=
    if 0x30 ≤ code ∧ code ≤ 0x39 then code - 0x30
    else if 0x41 ≤ code ∧ code ≤ 0x46 then code - 0x41 + 10
    else if 0x61 ≤ code ∧ code ≤ 0x66 then code - 0x61 + 10
    else base
  if value < base then some value else none

/-- The number that digits stand for when they follow those of `start`. -/
def digitsFrom (base start : Nat) : List Char → Option Nat
  | [] => some start
  | c :: cs => (digitValue? base c).bind fun d => digitsFrom base (start * base + d) cs

/-- The number written by one digit or more. -/
def digits? (base : Nat) (cs : List Char) : Option Nat :=
  if cs.isEmpty then none else digitsFrom base 0 cs

/-- A number without a minus sign; a plus sign may stand in front. -/
def unsigned? (base : Nat) : List Char → Option Nat
  | '+' :: cs => digits? base cs
  | cs => digits? base cs

/-- The decimal digits of a number, as many as it has. -/
def decimalDigits (n : Nat) : List Char :=
  Nat.toDigits 10 n

/-- The decimal digits of a number, with zeros in front up to a width. -/
def paddedDigits (width n : Nat) : List Char :=
  let cs := decimalDigits n
  List.replicate (width - cs.length) '0' ++ cs

/-- The text of an integer: its digits, behind a minus sign if it is negative. -/
def intText (n : Int) : String :=
  String.ofList (if n < 0 then '-' :: decimalDigits n.natAbs else decimalDigits n.natAbs)

/-- The text of a number. -/
def natText (n : Nat) : String :=
  String.ofList (decimalDigits n)

end WikiQuery.Number

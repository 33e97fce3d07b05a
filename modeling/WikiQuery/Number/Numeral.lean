import WikiQuery.Number.Word
import WikiQuery.Text.Blank

/-!
Numerals with a decimal point and an exponent, and the integer that a text stands for. A numeral
that is no integer of 64 bits stands for the nearest binary fraction of 53 significant bits, cut
towards zero and held within 64 bits.
-/

set_option autoImplicit false

namespace WikiQuery.Number

/-- The number `digits * 10 ^ exponent`, or its negative. -/
structure Numeral where
  negative : Bool
  digits : Nat
  exponent : Int
  deriving DecidableEq, Repr

/-- Whether a character is one of the ten ASCII digits. -/
def isDigit (c : Char) : Bool :=
  (digitValue? 10 c).isSome

/-- The number written by a run of digits, zero for an empty run. -/
def digitsValue (cs : List Char) : Nat :=
  (digitsFrom 10 0 cs).getD 0

/-- From here on further digits of an exponent are read over: the number is zero or has no bound
in any case. -/
def exponentBound : Nat := 65536

/-- The value of the digits of an exponent. -/
def exponentValue (cs : List Char) : Nat :=
  cs.foldl
    (fun n c => if n < exponentBound then 10 * n + (digitValue? 10 c).getD 0 else n) 0

/-- The exponent that ends a numeral: nothing, or the letter e, a sign or none, and digits. -/
def exponent? : List Char → Option Int
  | [] => some 0
  | c :: cs =>
    if c = 'e' ∨ c = 'E' then
      match cs with
      | '-' :: ds => magnitude ds |>.map fun n => -(n : Int)
      | '+' :: ds => magnitude ds |>.map Int.ofNat
      | ds => magnitude ds |>.map Int.ofNat
    else none
where
  /-- The digits of an exponent: at least one, and nothing else. -/
  magnitude (ds : List Char) : Option Nat :=
    if ds.isEmpty || !ds.all isDigit then none else some (exponentValue ds)

/-- A numeral without its sign: digits with a point among or beside them or none, then the
exponent. -/
def magnitude? (negative : Bool) (cs : List Char) : Option Numeral :=
  let whole := cs.takeWhile isDigit
  match cs.dropWhile isDigit with
  | '.' :: ds =>
    let fraction := ds.takeWhile isDigit
    if whole.isEmpty && fraction.isEmpty then none
    else
      (exponent? (ds.dropWhile isDigit)).map fun e =>
        ⟨negative, digitsValue (whole ++ fraction), e - fraction.length⟩
  | ds =>
    if whole.isEmpty then none
    else (exponent? ds).map fun e => ⟨negative, digitsValue whole, e⟩

/-- A numeral: a sign or none, digits with a point among or beside them or none, and an exponent or
none. -/
def numeral? : List Char → Option Numeral
  | '-' :: cs => magnitude? true cs
  | '+' :: cs => magnitude? false cs
  | cs => magnitude? false cs

/-- The integer nearest to a quotient; a half goes to the even neighbour. -/
def roundHalfEven (num den : Nat) : Nat :=
  let q := num / den
  let r := num % den
  if 2 * r < den then q
  else if den < 2 * r then q + 1
  else q + q % 2

/-- A binary fraction `mantissa * 2 ^ scale`. -/
structure Binary where
  mantissa : Nat
  scale : Int
  deriving DecidableEq, Repr

/-- The quotient `num / den` divided by `2 ^ k`, as a numerator and a denominator. -/
def scaledDown (num den : Nat) (k : Int) : Nat × Nat :=
  if 0 ≤ k then (num, den <<< k.toNat) else (num <<< (-k).toNat, den)

/-- The binary fraction of 53 significant bits that is nearest to a positive quotient. -/
def nearestBinary (num den : Nat) : Binary :=
  let least : Int := (num.log2 : Int) - den.log2 - 53
  let scaled := scaledDown num den least
  let k := if scaled.1 < scaled.2 <<< 53 then least else least + 1
  let exact := scaledDown num den k
  ⟨roundHalfEven exact.1 exact.2, k⟩

/-- The whole part of a binary fraction, unless it is beyond all numbers of a double's range. -/
def Binary.whole? (b : Binary) : Option Nat :=
  if 0 ≤ b.scale then
    let n := b.mantissa <<< b.scale.toNat
    if n < 1 <<< 1024 then some n else none
  else some (b.mantissa >>> (-b.scale).toNat)

/-- The numerator and the denominator of a numeral's magnitude. -/
def Numeral.ratio (x : Numeral) : Nat × Nat :=
  if 0 ≤ x.exponent then (x.digits * Nat.pow 10 x.exponent.toNat, 1)
  else (x.digits, Nat.pow 10 (-x.exponent).toNat)

/-- The integer that a numeral stands for; none if the numeral is beyond a double's range. -/
def Numeral.whole? (x : Numeral) : Option Int :=
  if x.digits = 0 then some 0
  else
    let ratio := x.ratio
    (nearestBinary ratio.1 ratio.2).whole?.map fun n =>
      clampInt64 (if x.negative then -(n : Int) else n)

/-- The integer that a text stands for: that integer itself, or a numeral cut towards zero. -/
def numeric? (s : String) : Option Int :=
  let s := Text.trim s
  match int64? s with
  | some n => some n
  | none => (numeral? s.toList).bind Numeral.whole?

/-- The integer that a text stands for, or else the default. -/
def coerceInteger (s : String) (default : Option Int) : Option Int :=
  (numeric? s).or default

end WikiQuery.Number

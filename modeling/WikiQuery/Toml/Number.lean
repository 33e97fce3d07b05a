import WikiQuery.Calendar
import WikiQuery.Number.Numeral
import WikiQuery.Toml.Lexeme
import WikiQuery.Toml.Value

/-!
Numbers and points in time in TOML.
-/

set_option autoImplicit false

namespace WikiQuery.Toml

open Number (isDigit)

/-- Reads the decimal digits of a whole number; the only one that starts with zero is zero. -/
def decimal? : Reader (List Char)
  | '0' :: cs => some (['0'], cs)
  | cs => digitRun? isDigit cs

/-- Reads a sign or none. -/
def sign : List Char → List Char × List Char
  | '+' :: cs => (['+'], cs)
  | '-' :: cs => (['-'], cs)
  | cs => ([], cs)

/-- Reads a whole number of 64 bits, in decimal digits or in those of another base. -/
def integer? (cs : List Char) : Option (Value × List Char) :=
  match cs with
  | '0' :: 'x' :: rest => based 16 rest
  | '0' :: 'o' :: rest => based 8 rest
  | '0' :: 'b' :: rest => based 2 rest
  | cs =>
    let signed := sign cs
    (decimal? signed.2).bind fun r =>
      (Number.int64? (String.ofList (signed.1 ++ r.1))).map fun n => (.integer n, r.2)
where
  /-- Digits of a base. -/
  based (base : Nat) (cs : List Char) : Option (Value × List Char) :=
    (digitRun? (fun c => (Number.digitValue? base c).isSome) cs).bind fun r =>
      (Number.digits? base r.1).bind fun n =>
        if (n : Int) ≤ Number.maxInt64 then some (.integer n, r.2) else none

/-- Reads an exponent. -/
def exponent? : Reader (List Char)
  | c :: cs =>
    if c = 'e' ∨ c = 'E' then
      let signed := sign cs
      (digitRun? isDigit signed.2).map fun r => ('e' :: signed.1 ++ r.1, r.2)
    else none
  | [] => none

/-- Reads the decimal places of a fraction, and an exponent or none. -/
def places? : Reader (List Char)
  | '.' :: cs =>
    (digitRun? isDigit cs).map fun r =>
      match exponent? r.2 with
      | some e => ('.' :: r.1 ++ e.1, e.2)
      | none => ('.' :: r.1, r.2)
  | _ => none

/-- Whether a numeral is too great for a double. -/
def isInfinite (cs : List Char) : Bool :=
  match Number.numeral? cs with
  | some x => !x.negative && x.whole?.isNone
  | none => false

/-- Reads a fraction; it has decimal places or an exponent, or is one of the values beyond all
numbers. -/
def fraction? (cs : List Char) : Option (Value × List Char) :=
  let signed := sign cs
  match signed.2 with
  | 'i' :: 'n' :: 'f' :: rest => some (.fraction, rest)
  | 'n' :: 'a' :: 'n' :: rest => some (.fraction, rest)
  | _ =>
    (decimal? signed.2).bind fun whole =>
      ((exponent? whole.2).or (places? whole.2)).bind fun tail =>
        if isInfinite (signed.1 ++ whole.1 ++ tail.1) then none else some (.fraction, tail.2)

/-- Reads a number of so many digits that is at most `bound`. -/
def fixed? (width bound : Nat) (cs : List Char) : Option (Nat × List Char) :=
  let ds := cs.take width
  if ds.length = width ∧ ds.all isDigit ∧ Number.digitsValue ds ≤ bound then
    some (Number.digitsValue ds, cs.drop width)
  else none

/-- The text behind a character. -/
def behind? (c : Char) : List Char → Option (List Char)
  | d :: cs => if d = c then some cs else none
  | [] => none

/-- Reads a date. -/
def date? (cs : List Char) : Option (List Char × List Char) := do
  let (year, rest) ← fixed? 4 9999 cs
  let rest ← behind? '-' rest
  let (month, rest) ← fixed? 2 12 rest
  let rest ← behind? '-' rest
  let (day, rest) ← fixed? 2 31 rest
  if Date.isValid ⟨year, month, day⟩ then some (cs.take 10, rest) else none

/-- A fraction of a second to nine places, without the zeros at its end. -/
def shownFraction (ds : List Char) : List Char :=
  match (ds.take 9).reverse.dropWhile (· == '0') with
  | [] => []
  | shown => '.' :: shown.reverse

/-- Reads a fraction of a second or none. -/
def secondFraction : List Char → List Char × List Char
  | '.' :: c :: cs =>
    if isDigit c then (shownFraction ((c :: cs).takeWhile isDigit), cs.dropWhile isDigit)
    else ([], '.' :: c :: cs)
  | cs => ([], cs)

/-- Reads a time of day. -/
def timeOfDay? (cs : List Char) : Option (List Char × List Char) := do
  let (_, rest) ← fixed? 2 23 cs
  let rest ← behind? ':' rest
  let (_, rest) ← fixed? 2 59 rest
  let rest ← behind? ':' rest
  let (_, rest) ← fixed? 2 60 rest
  let (fraction, rest) := secondFraction rest
  some (cs.take 8 ++ fraction, rest)

/-- Reads a distance from universal time; one of nothing has a plus sign. -/
def offset? : Reader (List Char)
  | [] => none
  | c :: cs =>
    if c = 'Z' ∨ c = 'z' then some (['Z'], cs)
    else if c = '+' ∨ c = '-' then do
      let (hours, rest) ← fixed? 2 23 cs
      let rest ← behind? ':' rest
      let (minutes, rest) ← fixed? 2 59 rest
      some ((if hours = 0 ∧ minutes = 0 then '+' else c) :: cs.take 5, rest)
    else none

/-- Reads a time of day that follows a date, with a distance from universal time or none. -/
def dayTime? : Reader (List Char)
  | [] => none
  | c :: cs =>
    if c = 'T' ∨ c = 't' ∨ c = ' ' then
      (timeOfDay? cs).map fun time =>
        match offset? time.2 with
        | some offset => ('T' :: time.1 ++ offset.1, offset.2)
        | none => ('T' :: time.1, time.2)
    else none

/-- Reads the text of a point in time: a date, a time of day, or both. -/
def timeText? (cs : List Char) : Option (List Char × List Char) :=
  match date? cs with
  | some date =>
    match dayTime? date.2 with
    | some time => some (date.1 ++ time.1, time.2)
    | none => some date
  | none => timeOfDay? cs

/-- Reads a point in time. -/
def time? (cs : List Char) : Option (Value × List Char) :=
  (timeText? cs).map fun text => (.time (String.ofList text.1), text.2)

end WikiQuery.Toml

import WikiQuery.Calendar
import WikiQuery.Number.Numeral

/-!
Points in time as text. A wiki keeps them as fourteen digits in universal time; a reader may give
them in that form, as RFC 3339 has it, or as a date with a time of day or without.
-/

set_option autoImplicit false

namespace WikiQuery.Timestamp

open Number (digitsValue isDigit paddedDigits)

/-- The parts that a layout is made of. -/
inductive Part
  | year | month | day | hour | minute | second
  /-- This character. -/
  | mark (c : Char)
  /-- Any run of white space, also none. -/
  | blanks
  deriving DecidableEq, Repr

/-- The layouts that hold a time of day. -/
def timeLayouts : List (List Part) :=
  let date := [.year, .mark '-', .month, .mark '-', .day]
  let time := [.hour, .mark ':', .minute]
  [[.year, .month, .day, .hour, .minute, .second],
    date ++ [.blanks] ++ time ++ [.mark ':', .second],
    date ++ [.mark 'T'] ++ time ++ [.mark ':', .second],
    date ++ [.blanks] ++ time]

/-- The layouts of a date alone. -/
def dateLayouts : List (List Part) :=
  [[.year, .mark '-', .month, .mark '-', .day], [.year, .month, .day]]

/-- The number written by at most `width` digits and at least one, and the text behind them. -/
def number? (width : Nat) (cs : List Char) : Option (Nat × List Char) :=
  let ds := (cs.take width).takeWhile isDigit
  if ds.isEmpty then none else some (digitsValue ds, cs.drop ds.length)

/-- The number written by exactly `width` digits, and the text behind them. -/
def fixedNumber? (width : Nat) (cs : List Char) : Option (Nat × List Char) :=
  let ds := cs.take width
  if ds.length = width ∧ ds.all isDigit then some (digitsValue ds, cs.drop width) else none

/-- A year has four digits at most, but as many as there are behind a sign. -/
def year? : List Char → Option (Int × List Char)
  | '-' :: cs => (number? cs.length cs).map fun r => (-(r.1 : Int), r.2)
  | '+' :: cs => (number? cs.length cs).map fun r => ((r.1 : Int), r.2)
  | cs => (number? 4 cs).map fun r => ((r.1 : Int), r.2)

/-- A number of one digit or two that is no greater than `bound`, behind white space or none. -/
def small? (bound : Nat) (cs : List Char) : Option (Nat × List Char) :=
  (number? 2 (Text.trimStart cs)).filter fun r => decide (r.1 ≤ bound)

/-- The text behind the character `c`. -/
def mark? (c : Char) : List Char → Option (List Char)
  | d :: cs => if d = c then some cs else none
  | [] => none

/-- Reads one part of a layout into a point in time. -/
def readPart (t : Instant) (cs : List Char) : Part → Option (Instant × List Char)
  | .year => (year? (Text.trimStart cs)).map fun r => ({ t with date.year := r.1 }, r.2)
  | .month => (small? 12 cs).map fun r => ({ t with date.month := r.1 }, r.2)
  | .day => (small? 31 cs).map fun r => ({ t with date.day := r.1 }, r.2)
  | .hour => (small? 23 cs).map fun r => ({ t with hour := r.1 }, r.2)
  | .minute => (small? 59 cs).map fun r => ({ t with minute := r.1 }, r.2)
  | .second => (small? 60 cs).map fun r => ({ t with second := r.1 }, r.2)
  | .mark c => (mark? c cs).map fun rest => (t, rest)
  | .blanks => some (t, Text.trimStart cs)

/-- Reads the parts of a layout, and nothing behind them. -/
def readParts (t : Instant) (cs : List Char) : List Part → Option Instant
  | [] => if cs.isEmpty then some t else none
  | part :: parts => (readPart t cs part).bind fun r => readParts r.1 r.2 parts

/-- What a layout leaves out: midnight. -/
def blank : Instant := ⟨⟨0, 0, 0⟩, 0, 0, 0⟩

/-- The point in time that a text gives in a layout. -/
def ofLayout? (cs : List Char) (layout : List Part) : Option Instant :=
  (readParts blank cs layout).filter fun t => t.date.isValid

/-- The fraction of a second, which is read over, if there is one. -/
def skipFraction : List Char → Option (List Char)
  | '.' :: cs =>
    match cs.dropWhile isDigit with
    | rest => if rest.length < cs.length then some rest else none
  | cs => some cs

/-- The distance from universal time in minutes, at the end of the text. -/
def offset? : List Char → Option Int
  | ['Z'] => some 0
  | c :: cs =>
    if c = '+' ∨ c = '-' ∨ c = '\u2212' then do
      let (hours, cs) ← fixedNumber? 2 cs
      let cs ← mark? ':' cs
      let (minutes, cs) ← fixedNumber? 2 cs
      if cs.isEmpty ∧ hours ≤ 23 ∧ minutes ≤ 59 then
        let total : Int := hours * 60 + minutes
        some (if c = '+' then total else -total)
      else none
    else none
  | [] => none

/-- The point in universal time that a text gives as RFC 3339 has it; its letters are capitals. -/
def ofRfc3339? (cs : List Char) : Option Instant := do
  let (year, cs) ← fixedNumber? 4 cs
  let cs ← mark? '-' cs
  let (month, cs) ← fixedNumber? 2 cs
  let cs ← mark? '-' cs
  let (day, cs) ← fixedNumber? 2 cs
  let cs ← (mark? 'T' cs).or (mark? ' ' cs)
  let (hour, cs) ← fixedNumber? 2 cs
  let cs ← mark? ':' cs
  let (minute, cs) ← fixedNumber? 2 cs
  let cs ← mark? ':' cs
  let (second, cs) ← fixedNumber? 2 cs
  let cs ← skipFraction cs
  let offset ← offset? cs
  let date : Date := ⟨year, month, day⟩
  if date.isValid ∧ hour ≤ 23 ∧ minute ≤ 59 ∧ second ≤ 60 then
    some (Instant.minutesEarlier ⟨date, hour, minute, second⟩ offset)
  else none

/-- The year in four digits, or in more behind a sign if it is not one of those. -/
def yearText (year : Int) : List Char :=
  if 0 ≤ year ∧ year ≤ 9999 then paddedDigits 4 year.toNat
  else (if year < 0 then '-' else '+') :: paddedDigits 4 year.natAbs

/-- The wiki's form of a point in time: year, month, day, hour, minute and second in digits. -/
def render (t : Instant) : String :=
  String.ofList (yearText t.date.year ++ paddedDigits 2 t.date.month ++ paddedDigits 2 t.date.day ++
    paddedDigits 2 t.hour ++ paddedDigits 2 t.minute ++ paddedDigits 2 t.second)

/-- A library to read and write points in time with. -/
structure Clock where
  /-- The point in universal time that a text gives as RFC 3339 has it. -/
  ofRfc3339? : List Char → Option Instant
  /-- The point in time that a text gives in a layout. -/
  ofLayout? : List Char → List Part → Option Instant
  /-- Year, month, day, hour, minute and second of a point in time in digits. -/
  render : Instant → String

/-- The library that reads and writes as above. -/
def Clock.standard : Clock where
  ofRfc3339? := Timestamp.ofRfc3339?
  ofLayout? := Timestamp.ofLayout?
  render := Timestamp.render

/-- A text as it is read: its ends are trimmed, and its letters are capitals. -/
def prepared (s : String) : List Char :=
  (Text.trimmed s.toList).map Char.toUpper

/-- The point in universal time that a text gives, in the first of the forms that fits. -/
def Clock.read? (clock : Clock) (s : String) : Option Instant :=
  (clock.ofRfc3339? (prepared s)).or
    ((timeLayouts ++ dateLayouts).findSome? (clock.ofLayout? (prepared s)))

/-- The wiki's form of the point in time that a text gives. -/
def Clock.normalize (clock : Clock) (s : String) : Option String :=
  (clock.read? s).map clock.render

/-- The wiki's form of the point in time that a text gives. -/
def normalize : String → Option String :=
  Clock.standard.normalize

end WikiQuery.Timestamp

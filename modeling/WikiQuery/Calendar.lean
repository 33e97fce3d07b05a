/-!
The proleptic Gregorian calendar: which dates there are, the day that follows another, and points in
time to the second.
-/

set_option autoImplicit false

namespace WikiQuery

/-- A date: year, month and day of the month. -/
structure Date where
  year : Int
  month : Nat
  day : Nat
  deriving DecidableEq, Repr

namespace Date

/-- Whether a year has a day more. -/
def isLeapYear (year : Int) : Bool :=
  year % 4 == 0 && (year % 100 != 0 || year % 400 == 0)

/-- The number of days of a month, zero for a month that there is not. -/
def daysInMonth (year : Int) : Nat → Nat
  | 2 => if isLeapYear year then 29 else 28
  | 4 | 6 | 9 | 11 => 30
  | 1 | 3 | 5 | 7 | 8 | 10 | 12 => 31
  | _ => 0

/-- The first and the last year that dates are kept for. -/
def firstYear : Int := -262143

@[inherit_doc firstYear]
def lastYear : Int := 262142

/-- Whether there is such a date. -/
def isValid (date : Date) : Bool :=
  decide (firstYear ≤ date.year ∧ date.year ≤ lastYear ∧ 1 ≤ date.day ∧
    date.day ≤ daysInMonth date.year date.month)

/-- The day after. -/
def next (date : Date) : Date :=
  if date.day < daysInMonth date.year date.month then ⟨date.year, date.month, date.day + 1⟩
  else if date.month < 12 then ⟨date.year, date.month + 1, 1⟩
  else ⟨date.year + 1, 1, 1⟩

/-- The day before. -/
def previous (date : Date) : Date :=
  if 1 < date.day then ⟨date.year, date.month, date.day - 1⟩
  else if 1 < date.month then
    ⟨date.year, date.month - 1, daysInMonth date.year (date.month - 1)⟩
  else ⟨date.year - 1, 12, 31⟩

end Date

/-- A point in time to the second. The seconds run to 60 where a leap second is kept. -/
structure Instant where
  date : Date
  hour : Nat
  minute : Nat
  second : Nat
  deriving DecidableEq, Repr

/-- The point in time that is a number of minutes earlier, at most a day's worth. -/
def Instant.minutesEarlier (t : Instant) (minutes : Int) : Instant :=
  let total := (t.hour : Int) * 60 + t.minute - minutes
  let date :=
    if total < 0 then t.date.previous
    else if 1440 ≤ total then t.date.next
    else t.date
  let ofDay := (total % 1440).toNat
  ⟨date, ofDay / 60, ofDay % 60, t.second⟩

end WikiQuery

import WikiQuery.Calendar

/-!
Dates that there are, and points in time on such dates. The day after a date and the day before are
dates again, so a point in time that is moved by minutes stays a point in time, and its year changes by
one at most.
-/

set_option autoImplicit false

namespace WikiQuery

namespace Date

variable {date : Date}

theorem daysInMonth_pos_iff {year : Int} {month : Nat} :
    0 < daysInMonth year month ↔ 1 ≤ month ∧ month ≤ 12 := by
  unfold daysInMonth
  split
  · split <;> decide
  case h_13 => grind
  all_goals decide

theorem daysInMonth_le (year : Int) (month : Nat) : daysInMonth year month ≤ 31 := by
  unfold daysInMonth
  split
  · split <;> decide
  all_goals omega

theorem isValid_iff :
    date.isValid = true ↔ (firstYear ≤ date.year ∧ date.year ≤ lastYear) ∧ 1 ≤ date.day ∧
      date.day ≤ daysInMonth date.year date.month := by
  rw [isValid, decide_eq_true_iff, and_assoc]

theorem month_of_isValid (h : date.isValid = true) : 1 ≤ date.month ∧ date.month ≤ 12 := by
  obtain ⟨-, least, most⟩ := isValid_iff.mp h
  exact daysInMonth_pos_iff.mp (Nat.lt_of_lt_of_le least most)

theorem day_of_isValid (h : date.isValid = true) : 1 ≤ date.day ∧ date.day ≤ 31 := by
  obtain ⟨-, least, most⟩ := isValid_iff.mp h
  exact ⟨least, Nat.le_trans most (daysInMonth_le _ _)⟩

theorem year_next (date : Date) :
    date.year ≤ date.next.year ∧ date.next.year ≤ date.year + 1 := by
  unfold next
  split
  · dsimp only
    omega
  · split <;> dsimp only <;> omega

theorem year_previous (date : Date) :
    date.year - 1 ≤ date.previous.year ∧ date.previous.year ≤ date.year := by
  unfold previous
  split
  · dsimp only
    omega
  · split <;> dsimp only <;> omega

theorem isValid_next (h : date.isValid = true) (room : date.year < lastYear) :
    date.next.isValid = true := by
  obtain ⟨⟨first, -⟩, -⟩ := isValid_iff.mp h
  have years := date.year_next
  refine isValid_iff.mpr ⟨by omega, ?_⟩
  -- The day after stands in the same month, in the next month, or in the next year.
  unfold next
  split
  · exact ⟨Nat.le_add_left 1 _, ‹_›⟩
  · split
    · exact ⟨Nat.le_refl 1, daysInMonth_pos_iff.mpr ⟨Nat.le_add_left 1 _, ‹_›⟩⟩
    · exact ⟨Nat.le_refl 1, daysInMonth_pos_iff.mpr ⟨Nat.le_refl 1, Nat.le_add_left 1 11⟩⟩

theorem isValid_previous (h : date.isValid = true) (room : firstYear < date.year) :
    date.previous.isValid = true := by
  obtain ⟨⟨-, last⟩, -, most⟩ := isValid_iff.mp h
  have months := month_of_isValid h
  have years := date.year_previous
  refine isValid_iff.mpr ⟨by omega, ?_⟩
  unfold previous
  split
  · dsimp only
    omega
  · split
    · have month : 0 < daysInMonth date.year (date.month - 1) :=
        daysInMonth_pos_iff.mpr (by omega)
      exact ⟨month, Nat.le_refl _⟩
    · exact ⟨Nat.le_add_left 1 30, Nat.le_refl 31⟩

end Date

namespace Instant

variable {t : Instant}

/-- A point in time on a date that there is, at a time of day that there is. Any minute may have a leap
second. -/
structure IsProper (t : Instant) : Prop where
  date : t.date.isValid = true
  hour : t.hour ≤ 23
  minute : t.minute ≤ 59
  second : t.second ≤ 60

theorem year_minutesEarlier (t : Instant) (minutes : Int) :
    t.date.year - 1 ≤ (t.minutesEarlier minutes).date.year ∧
      (t.minutesEarlier minutes).date.year ≤ t.date.year + 1 := by
  have earlier := t.date.year_previous
  have later := t.date.year_next
  simp only [minutesEarlier]
  split
  · omega
  · split <;> omega

/-- A point in time that is moved by minutes stays one, unless its year is the first or the last. -/
theorem IsProper.minutesEarlier (h : t.IsProper) (first : Date.firstYear < t.date.year)
    (last : t.date.year < Date.lastYear) (minutes : Int) : (t.minutesEarlier minutes).IsProper := by
  refine ⟨?_, ?_, ?_, h.second⟩
  · simp only [Instant.minutesEarlier]
    split
    · exact Date.isValid_previous h.date first
    · split
      · exact Date.isValid_next h.date last
      · exact h.date
  · simp only [Instant.minutesEarlier]
    omega
  · simp only [Instant.minutesEarlier]
    omega

end Instant

end WikiQuery

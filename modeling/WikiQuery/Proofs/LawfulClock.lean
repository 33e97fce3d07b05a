import WikiQuery.Proofs.TimeReading

/-!
Libraries that read and write points in time as they are documented. Whatever the form of a text, what such
a library reads is on a date that there is, at a time of day that there is. Its year has four digits,
unless the text has a sign in front of the year, or universal time is in another year than the text at an
end of the range.
-/

set_option autoImplicit false

namespace WikiQuery.Timestamp

open Number (paddedDigits)

variable {t : Instant} {cs : List Char} {s : String}

/-- A library that keeps to what is documented of it. -/
structure LawfulClock extends Clock where
  /-- A text in the form of RFC 3339 begins with the four digits of a year and a dash. It stands for a
  point in time of this year that is moved by its distance from universal time. -/
  of_ofRfc3339? : ∀ {cs : List Char} {t : Instant}, ofRfc3339? cs = some t →
    ∃ (n : Nat) (rest : List Char) (t₀ : Instant) (offset : Int), n < 10 ^ 4 ∧
      cs = paddedDigits 4 n ++ '-' :: rest ∧ t₀.date.year = n ∧ t₀.IsProper ∧
      t = t₀.minutesEarlier offset
  /-- In any layout a text gives a date that there is, and a time of day that there is. -/
  isProper_ofLayout? : ∀ {cs : List Char} {layout : List Part} {t : Instant},
    ofLayout? cs layout = some t → t.IsProper
  /-- A year has four digits at most, unless there is a sign in front of it. -/
  year_ofLayout? : ∀ {cs : List Char} {parts : List Part} {t : Instant}, .year ∉ parts →
    ofLayout? cs (.year :: parts) = some t →
    (0 ≤ t.date.year ∧ t.date.year ≤ 9999) ∨
      ∃ sign ds, Text.trimStart cs = sign :: ds ∧ (sign = '-' ∨ sign = '+')
  /-- Numbers in their full width are read without marks between them. -/
  ofLayout?_digits : ∀ {t : Instant}, t.IsProper → 0 ≤ t.date.year ∧ t.date.year ≤ 9999 →
    ofLayout? (yearText t.date.year ++ behindYear t)
      [.year, .month, .day, .hour, .minute, .second] = some t
  /-- Numbers are written in their full width, and a year that has not four digits behind a sign. -/
  toList_render : ∀ {t : Instant}, t.IsProper →
    (render t).toList = yearText t.date.year ++ behindYear t

/-- There is such a library. -/
def LawfulClock.standard : LawfulClock where
  toClock := .standard
  of_ofRfc3339? := Timestamp.of_ofRfc3339?
  isProper_ofLayout? := Timestamp.isProper_ofLayout?
  year_ofLayout? := Timestamp.year_ofLayout?
  ofLayout?_digits := Timestamp.ofLayout?_digits
  toList_render := fun _ => Timestamp.toList_render _

theorem layouts_begin :
    ∀ layout ∈ timeLayouts ++ dateLayouts, layout.head? = some .year ∧ .year ∉ layout.tail := by
  decide

namespace LawfulClock

variable {clock : LawfulClock}

theorem isProper_ofRfc3339? (h : clock.ofRfc3339? cs = some t) : t.IsProper := by
  obtain ⟨n, rest, t₀, offset, small, -, year, proper, rfl⟩ := clock.of_ofRfc3339? h
  refine proper.minutesEarlier ?_ ?_ offset
  · rw [year, Date.firstYear]
    omega
  · rw [year, Date.lastYear]
    omega

theorem year_ofRfc3339? (h : clock.ofRfc3339? cs = some t) :
    (0 ≤ t.date.year ∧ t.date.year ≤ 9999) ∨
      ∃ n rest, cs = paddedDigits 4 n ++ '-' :: rest ∧ (n = 0 ∨ n = 9999) := by
  obtain ⟨n, rest, t₀, offset, small, same, year, -, rfl⟩ := clock.of_ofRfc3339? h
  -- An offset moves the year by one at most, so four digits stay four digits away from the ends.
  have near := t₀.year_minutesEarlier offset
  by_cases edge : n = 0 ∨ n = 9999
  · exact .inr ⟨n, rest, same, edge⟩
  · exact .inl (by omega)

theorem read?_cases (h : clock.read? s = some t) :
    clock.ofRfc3339? (prepared s) = some t ∨
      ∃ parts, .year ∉ parts ∧ clock.ofLayout? (prepared s) (.year :: parts) = some t := by
  rcases Option.or_eq_some_iff.mp h with rfc | ⟨-, layouts⟩
  · exact .inl rfc
  · obtain ⟨layout, member, read⟩ := List.exists_of_findSome?_eq_some layouts
    obtain ⟨begins, once⟩ := layouts_begin layout member
    obtain ⟨parts, rfl⟩ : ∃ parts, layout = .year :: parts := List.head?_eq_some_iff.mp begins
    exact .inr ⟨parts, once, read⟩

/-- What is read is a point in time, whatever the form of the text. -/
theorem isProper_of_read? (h : clock.read? s = some t) : t.IsProper := by
  rcases read?_cases h with read | ⟨parts, -, read⟩
  · exact isProper_ofRfc3339? read
  · exact clock.isProper_ofLayout? read

end LawfulClock

end WikiQuery.Timestamp

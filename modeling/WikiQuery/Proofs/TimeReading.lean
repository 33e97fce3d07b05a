import WikiQuery.Proofs.PaddedDigits
import WikiQuery.Proofs.ProperTime
import WikiQuery.Timestamp

/-!
The standard clock. What it reads is on a date that there is, at a time of day that there is; a text in the
form of RFC 3339 gives a point in time of the year that it begins with, moved by an offset, and in any other
layout the year has four digits or a sign. What is written in digits of full width is read back.
-/

set_option autoImplicit false

namespace WikiQuery.Timestamp

open Number (IsNumeral digitsValue isDigit paddedDigits)

variable {t t' : Instant} {cs ds rest : List Char} {part : Part} {parts : List Part}
  {n bound width : Nat} {year : Int}

theorem lt_of_number? (h : number? width cs = some (n, rest)) : n < 10 ^ width := by
  rw [number?] at h
  simp only [Option.ite_none_left_eq_some, Option.some.injEq, Prod.mk.injEq] at h
  obtain ⟨inhabited, rfl, -⟩ := h
  have digits : ∀ c ∈ (cs.take width).takeWhile isDigit, isDigit c = true := fun c =>
    List.mem_takeWhile_imp
  have numeral := Number.isNumeral_digitsValue (by simpa using inhabited) digits
  have few : ((cs.take width).takeWhile isDigit).length ≤ width :=
    (List.takeWhile_sublist _).length_le.trans (List.length_take_le width cs)
  exact (numeral.lt_pow (by decide)).trans_le (Nat.pow_le_pow_right (by decide) few)

/-- A number of fixed width is read from its digits behind zeros, and from nothing else. -/
theorem fixedNumber?_eq_some_iff (positive : 0 < width) :
    fixedNumber? width cs = some (n, rest) ↔
      n < 10 ^ width ∧ cs = Number.paddedDigits width n ++ rest := by
  have written := Number.isNumeral_paddedDigits width n
  simp only [fixedNumber?, Option.ite_none_right_eq_some, Option.some.injEq, Prod.mk.injEq,
    List.all_eq_true]
  constructor
  · rintro ⟨⟨length, digits⟩, rfl, rfl⟩
    have inhabited : cs.take width ≠ [] := List.ne_nil_of_length_pos (length.symm ▸ positive)
    have read := Number.isNumeral_digitsValue inhabited digits
    have small := read.lt_pow (by decide)
    rw [length] at small
    have same := length.trans (Number.length_paddedDigits positive small).symm
    rw [← read.eq_of_length_eq (Number.isNumeral_paddedDigits _ _) same, List.take_append_drop]
    exact ⟨small, rfl⟩
  · rintro ⟨small, rfl⟩
    have length := Number.length_paddedDigits positive small
    rw [List.take_left' length, List.drop_left' length]
    exact ⟨⟨length, written.isDigit_of_mem⟩, written.digitsValue_eq, rfl⟩

theorem of_year? (h : year? cs = some (year, rest)) :
    (0 ≤ year ∧ year ≤ 9999) ∨ ∃ sign ds, cs = sign :: ds ∧ (sign = '-' ∨ sign = '+') := by
  unfold year? at h
  split at h
  · exact .inr ⟨_, _, rfl, .inl rfl⟩
  · exact .inr ⟨_, _, rfl, .inr rfl⟩
  · obtain ⟨⟨n, rest'⟩, read, same⟩ := Option.map_eq_some_iff.mp h
    obtain ⟨rfl, rfl⟩ := Prod.mk.inj same
    have bound : n < 10 ^ 4 := lt_of_number? read
    exact .inl (by omega)

theorem le_of_small? (h : small? bound cs = some (n, rest)) : n ≤ bound := by
  rw [small?, Option.filter_eq_some_iff, decide_eq_true_eq] at h
  exact h.2

/-- A time of day that there is. -/
def HasTime (t : Instant) : Prop :=
  t.hour ≤ 23 ∧ t.minute ≤ 59 ∧ t.second ≤ 60

theorem hasTime_readPart (h : HasTime t) (read : readPart t cs part = some (t', rest)) :
    HasTime t' := by
  obtain ⟨hour, minute, second⟩ := h
  cases part with
  | blanks =>
    obtain ⟨rfl, -⟩ := Prod.mk.inj (Option.some.inj read)
    exact ⟨hour, minute, second⟩
  | hour =>
    obtain ⟨r, found, same⟩ := Option.map_eq_some_iff.mp read
    obtain ⟨rfl, -⟩ := Prod.mk.inj same
    exact ⟨le_of_small? found, minute, second⟩
  | minute =>
    obtain ⟨r, found, same⟩ := Option.map_eq_some_iff.mp read
    obtain ⟨rfl, -⟩ := Prod.mk.inj same
    exact ⟨hour, le_of_small? found, second⟩
  | second =>
    obtain ⟨r, found, same⟩ := Option.map_eq_some_iff.mp read
    obtain ⟨rfl, -⟩ := Prod.mk.inj same
    exact ⟨hour, minute, le_of_small? found⟩
  | year | month | day | mark c =>
    obtain ⟨r, -, same⟩ := Option.map_eq_some_iff.mp read
    obtain ⟨rfl, -⟩ := Prod.mk.inj same
    exact ⟨hour, minute, second⟩

theorem hasTime_readParts (h : HasTime t) (read : readParts t cs parts = some t') : HasTime t' := by
  induction parts generalizing t cs with
  | nil =>
    rw [readParts, Option.ite_none_right_eq_some] at read
    exact Option.some.inj read.2 ▸ h
  | cons part parts ih =>
    obtain ⟨⟨next, rest⟩, first, later⟩ := Option.bind_eq_some_iff.mp read
    exact ih (hasTime_readPart h first) later

theorem year_readPart (other : part ≠ .year) (read : readPart t cs part = some (t', rest)) :
    t'.date.year = t.date.year := by
  cases part with
  | year => exact absurd rfl other
  | blanks =>
    obtain ⟨rfl, -⟩ := Prod.mk.inj (Option.some.inj read)
    rfl
  | month | day | hour | minute | second | mark c =>
    obtain ⟨r, -, same⟩ := Option.map_eq_some_iff.mp read
    obtain ⟨rfl, -⟩ := Prod.mk.inj same
    rfl

theorem year_readParts (once : .year ∉ parts) (read : readParts t cs parts = some t') :
    t'.date.year = t.date.year := by
  induction parts generalizing t cs with
  | nil =>
    rw [readParts, Option.ite_none_right_eq_some] at read
    rw [Option.some.inj read.2]
  | cons part parts ih =>
    obtain ⟨⟨next, rest⟩, first, later⟩ := Option.bind_eq_some_iff.mp read
    rw [List.mem_cons, not_or] at once
    rw [ih once.2 later, year_readPart (Ne.symm once.1) first]

theorem isProper_ofLayout? {layout : List Part} (h : ofLayout? cs layout = some t) :
    t.IsProper := by
  rw [ofLayout?, Option.filter_eq_some_iff] at h
  obtain ⟨hour, minute, second⟩ :=
    hasTime_readParts (t := blank) ⟨by decide, by decide, by decide⟩ h.1
  exact ⟨h.2, hour, minute, second⟩

/-- In a layout that begins with the year, and has no other, the year has four digits or a sign. -/
theorem year_ofLayout? (once : .year ∉ parts) (h : ofLayout? cs (.year :: parts) = some t) :
    (0 ≤ t.date.year ∧ t.date.year ≤ 9999) ∨
      ∃ sign ds, Text.trimStart cs = sign :: ds ∧ (sign = '-' ∨ sign = '+') := by
  rw [ofLayout?, Option.filter_eq_some_iff] at h
  obtain ⟨⟨next, rest⟩, first, later⟩ := Option.bind_eq_some_iff.mp h.1
  obtain ⟨⟨year, rest'⟩, found, same⟩ := Option.map_eq_some_iff.mp first
  obtain ⟨rfl, -⟩ := Prod.mk.inj same
  rw [year_readParts once later]
  exact of_year? found

theorem eq_of_mark? {c : Char} (h : mark? c cs = some rest) : cs = c :: rest := by
  unfold mark? at h
  split at h
  · rw [Option.ite_none_right_eq_some] at h
    rw [h.1, Option.some.inj h.2]
  · cases h

/-- A text in the form of RFC 3339 begins with the four digits of a year and a dash. It stands for a point
in time of this year that is moved by its distance from universal time. -/
theorem of_ofRfc3339? (h : ofRfc3339? cs = some t) :
    ∃ (n : Nat) (rest : List Char) (t₀ : Instant) (offset : Int), n < 10 ^ 4 ∧
      cs = Number.paddedDigits 4 n ++ '-' :: rest ∧ t₀.date.year = n ∧ t₀.IsProper ∧
      t = t₀.minutesEarlier offset := by
  simp only [ofRfc3339?, bind, Option.bind_eq_some_iff, Prod.exists,
    Option.ite_none_right_eq_some, Option.some.injEq] at h
  obtain ⟨year, _, front, rest, dash, month, _, -, _, -, day, _, -, _, -, hour, _, -, _, -, minute,
    _, -, _, -, second, _, -, _, -, offset, -, ⟨valid, hours, minutes, seconds⟩, rfl⟩ := h
  obtain ⟨small, same⟩ := (fixedNumber?_eq_some_iff (by decide)).mp front
  rw [eq_of_mark? dash] at same
  exact ⟨year, rest, ⟨⟨year, month, day⟩, hour, minute, second⟩, offset, small, same, rfl,
    ⟨valid, hours, minutes, seconds⟩, rfl⟩

/-! ### Reading what is written in digits -/

/-- The ten digits that stand behind the year. -/
def behindYear (t : Instant) : List Char :=
  paddedDigits 2 t.date.month ++ (paddedDigits 2 t.date.day ++ (paddedDigits 2 t.hour ++
    (paddedDigits 2 t.minute ++ paddedDigits 2 t.second)))

theorem toList_render (t : Instant) :
    (render t).toList = yearText t.date.year ++ behindYear t := by
  simp only [render, behindYear, String.toList_ofList, List.append_assoc]

theorem yearText_of_four (four : 0 ≤ t.date.year ∧ t.date.year ≤ 9999) :
    yearText t.date.year = paddedDigits 4 t.date.year.toNat :=
  if_pos four

theorem number?_append (h : IsNumeral 10 ds n) (length : ds.length = width) (rest : List Char) :
    number? width (ds ++ rest) = some (n, rest) := by
  have digits : ds.takeWhile isDigit = ds := List.takeWhile_eq_self_iff.mpr h.isDigit_of_mem
  have inhabited : ds.isEmpty = false := List.isEmpty_eq_false_iff.mpr h.1
  simp [number?, List.take_left' length, digits, inhabited, h.digitsValue_eq]

theorem trimStart_append (h : IsNumeral 10 ds n) (rest : List Char) :
    Text.trimStart (ds ++ rest) = ds ++ rest := by
  obtain ⟨c, ds, rfl, digit⟩ := h.exists_cons
  refine Text.trimStart_eq_self fun d first => ?_
  obtain rfl : c = d := Option.some.inj first
  exact (Number.plain_of_isDigit digit).1

theorem year?_append (small : n ≤ 9999) (rest : List Char) :
    year? (paddedDigits 4 n ++ rest) = some ((n : Int), rest) := by
  have written := Number.isNumeral_paddedDigits 4 n
  have read := number?_append written (Number.length_paddedDigits (by decide) (by omega)) rest
  obtain ⟨c, ds, same, digit⟩ := written.exists_cons
  obtain ⟨minus, plus⟩ := Number.not_sign_of_isDigit digit
  rw [same, List.cons_append] at read ⊢
  unfold year?
  split
  · next equal => exact absurd (List.cons.inj equal).1 minus
  · next equal => exact absurd (List.cons.inj equal).1 plus
  · rw [read, Option.map_some]

theorem small?_append (least : n ≤ bound) (two : n < 100) (rest : List Char) :
    small? bound (paddedDigits 2 n ++ rest) = some (n, rest) := by
  have written := Number.isNumeral_paddedDigits 2 n
  rw [small?, trimStart_append written,
    number?_append written (Number.length_paddedDigits (by decide) two)]
  exact Option.filter_some_pos (by simpa using least)

theorem ofLayout?_digits (h : t.IsProper) (four : 0 ≤ t.date.year ∧ t.date.year ≤ 9999) :
    ofLayout? (yearText t.date.year ++ behindYear t)
      [.year, .month, .day, .hour, .minute, .second] = some t := by
  obtain ⟨-, month⟩ := Date.month_of_isValid h.date
  obtain ⟨-, day⟩ := Date.day_of_isValid h.date
  have year : ((t.date.year.toNat : Nat) : Int) = t.date.year := Int.toNat_of_nonneg four.1
  have second := small?_append h.second (h.second.trans_lt (by decide)) []
  rw [List.append_nil] at second
  have parts : readParts blank (yearText t.date.year ++ behindYear t)
      [.year, .month, .day, .hour, .minute, .second] = some t := by
    -- No part reads on into the digits of the next one, as each has its full width.
    rw [yearText_of_four four, behindYear]
    simp only [readParts, readPart, trimStart_append (Number.isNumeral_paddedDigits _ _),
      year?_append (show t.date.year.toNat ≤ 9999 by omega), small?_append month (by omega),
      small?_append day (by omega), small?_append h.hour (h.hour.trans_lt (by decide)),
      small?_append h.minute (h.minute.trans_lt (by decide)), second, year, Option.map_some,
      Option.bind_some, List.isEmpty_nil, if_true]
  rw [ofLayout?, parts]
  exact Option.filter_some_pos h.date

end WikiQuery.Timestamp

import WikiQuery.Proofs.LawfulClock

/-!
The wiki's form of a point in time. It is fourteen digits if the year is one of four digits; any other
year stands behind a sign, and then there are fifteen characters or more. What is written in fourteen
digits is read as the same point in time, so it is in the wiki's form already.
-/

set_option autoImplicit false

namespace WikiQuery.Number

variable {c : Char}

theorem isDigit_iff : isDigit c = true ↔ c.isDigit = true := by
  simp only [isDigit, digitValue?, Char.isDigit, Char.toNat, ge_iff_le, UInt32.le_iff_toNat_le]
  grind

end WikiQuery.Number

namespace WikiQuery.Timestamp

open Number (IsNumeral isDigit isDigit_iff paddedDigits)

variable {clock : LawfulClock} {t : Instant} {c : Char} {cs ds : List Char} {n width : Nat}
  {s u : String}

/-- The wiki's form of a point in time: fourteen ASCII digits. -/
def IsStamp (u : String) : Prop :=
  u.length = 14 ∧ ∀ c ∈ u.toList, c.isDigit = true

instance (u : String) : Decidable (IsStamp u) :=
  decidable_of_iff (u.length = 14 ∧ u.toList.all Char.isDigit = true)
    (and_congr_right' List.all_eq_true)

/-- A sign, and fourteen digits or more behind it. -/
def IsSigned (u : String) : Prop :=
  ∃ sign ds, (sign = '+' ∨ sign = '-') ∧ u.toList = sign :: ds ∧ 14 ≤ ds.length ∧
    ∀ c ∈ ds, c.isDigit = true

theorem isDigit_of_mem_paddedDigits (member : c ∈ paddedDigits width n) : c.isDigit = true :=
  isDigit_iff.mp ((Number.isNumeral_paddedDigits width n).isDigit_of_mem c member)

theorem isDigit_of_mem_append (member : c ∈ paddedDigits width n ++ behindYear t) :
    c.isDigit = true := by
  simp only [behindYear, List.mem_append] at member
  rcases member with m | m | m | m | m | m <;> exact isDigit_of_mem_paddedDigits m

theorem length_behindYear (h : t.IsProper) : (behindYear t).length = 10 := by
  have two : ∀ {n}, n < 100 → (paddedDigits 2 n).length = 2 := fun small =>
    Number.length_paddedDigits (by decide) small
  have month := Date.month_of_isValid h.date
  have day := Date.day_of_isValid h.date
  have hour := h.hour
  have minute := h.minute
  have second := h.second
  simp only [behindYear, List.length_append]
  rw [two (by omega), two (by omega), two (by omega), two (by omega), two (by omega)]

theorem isStamp_render (h : t.IsProper) (four : 0 ≤ t.date.year ∧ t.date.year ≤ 9999) :
    IsStamp (clock.render t) := by
  have year : (paddedDigits 4 t.date.year.toNat).length = 4 :=
    Number.length_paddedDigits (by decide) (by omega)
  constructor
  · rw [← String.length_toList, clock.toList_render h, List.length_append, yearText_of_four four,
      year, length_behindYear h]
  · intro c member
    rw [clock.toList_render h, yearText_of_four four] at member
    exact isDigit_of_mem_append member

/-- A year that has not four digits is written behind a sign, in four digits or more. -/
theorem isSigned_render (h : t.IsProper) (other : ¬(0 ≤ t.date.year ∧ t.date.year ≤ 9999)) :
    IsSigned (clock.render t) := by
  refine ⟨if t.date.year < 0 then '-' else '+',
    paddedDigits 4 t.date.year.natAbs ++ behindYear t, ?_, ?_, ?_, ?_⟩
  · split
    · exact .inr rfl
    · exact .inl rfl
  · rw [clock.toList_render h, yearText, if_neg other, List.cons_append]
  · have year := Number.le_length_paddedDigits 4 t.date.year.natAbs
    rw [List.length_append, length_behindYear h]
    omega
  · exact fun c member => isDigit_of_mem_append member

theorem isStamp_render_iff (h : t.IsProper) :
    IsStamp (clock.render t) ↔ 0 ≤ t.date.year ∧ t.date.year ≤ 9999 := by
  refine ⟨fun stamp => ?_, isStamp_render h⟩
  -- A sign in front is no digit.
  by_contra other
  have signed : IsSigned (clock.render t) := isSigned_render h other
  obtain ⟨sign, ds, kind, written, -, -⟩ := signed
  have digit := stamp.2 sign (written ▸ List.mem_cons_self)
  rcases kind with rfl | rfl <;> exact absurd digit (by decide)

/-! ### Where the year comes from -/

/-- A character is its own capital, or it has one of the capitals of ASCII. -/
theorem toUpper_cases (c : Char) :
    c.toUpper = c ∨ (0x41 ≤ c.toUpper.toNat ∧ c.toUpper.toNat ≤ 0x5A) := by
  by_cases small : 'a'.val ≤ c.val ∧ c.val ≤ 'z'.val
  · have moved : c.toUpper = ⟨c.val + ('A'.val - 'a'.val), _⟩ := dif_pos small
    have distance : ('A'.val - 'a'.val : UInt32).toNat = 2 ^ 32 - 32 := by decide
    have least : 0x61 ≤ c.val.toNat := UInt32.le_iff_toNat_le.mp small.1
    have most : c.val.toNat ≤ 0x7A := UInt32.le_iff_toNat_le.mp small.2
    right
    rw [← Char.toNat_val, moved, UInt32.toNat_add, distance]
    omega
  · exact .inl (dif_neg small)

theorem prefix_of_prefix_map_toUpper (h : cs <+: ds.map Char.toUpper)
    (below : cs.all (fun c => decide (c.toNat < 0x41)) = true) : cs <+: ds := by
  obtain ⟨front, begins, rfl⟩ := List.prefix_map_iff.mp h
  have same : front.map Char.toUpper = front := by
    refine (List.map_congr_left fun c member => ?_).trans (List.map_id front)
    -- What begins the text has no letters, so it stands there as it did before letters became capitals.
    have low := List.all_eq_true.mp below _ (List.mem_map_of_mem member)
    rw [decide_eq_true_eq] at low
    exact (toUpper_cases c).resolve_right fun capital => by omega
  rwa [same]

theorem isBlank_toUpper (solid : Text.isBlank c = false) : Text.isBlank c.toUpper = false := by
  rcases toUpper_cases c with same | capital
  · rwa [same]
  · simp only [Text.isBlank, decide_eq_false_iff_not]
    omega

theorem trimStart_prepared (s : String) : Text.trimStart (prepared s) = prepared s := by
  refine Text.trimStart_eq_self fun c first => ?_
  rw [prepared, List.head?_map] at first
  obtain ⟨d, first', rfl⟩ := Option.map_eq_some_iff.mp first
  exact isBlank_toUpper ((Text.trimmed_eq_self_iff.mp (Text.trimmed_trimmed _)).1 d first')

/-- What a text begins with if its year is not one of four digits: a sign, or the first or the last of the
years of four digits, which an offset moves past the end. -/
def edges : List String :=
  ["+", "-", "0000-", "9999-"]

theorem begins_of_read? (h : clock.read? s = some t)
    (other : ¬(0 ≤ t.date.year ∧ t.date.year ≤ 9999)) :
    ∃ front ∈ edges, front.toList <+: Text.trimmed s.toList := by
  have below : ∀ front ∈ edges, front.toList.all (fun c => decide (c.toNat < 0x41)) = true := by
    decide
  suffices begins : ∃ front ∈ edges, front.toList <+: prepared s by
    obtain ⟨front, member, begins⟩ := begins
    exact ⟨front, member, prefix_of_prefix_map_toUpper begins (below front member)⟩
  rcases LawfulClock.read?_cases h with read | ⟨parts, once, read⟩
  · obtain ⟨n, rest, same, rfl | rfl⟩ := (LawfulClock.year_ofRfc3339? read).resolve_left other
    · exact ⟨"0000-", by decide, rest, same.symm⟩
    · exact ⟨"9999-", by decide, rest, same.symm⟩
  · obtain ⟨sign, ds, same, kind⟩ := (clock.year_ofLayout? once read).resolve_left other
    rw [trimStart_prepared] at same
    rcases kind with rfl | rfl
    · exact ⟨"-", by decide, ds, same.symm⟩
    · exact ⟨"+", by decide, ds, same.symm⟩

/-- With any library that keeps to what is documented of it, a text is written as fourteen digits if it is
read as a point in time in a year of four digits. Else its year is written behind a sign; such a text has
a sign itself, or it is in the first or the last year of four digits. -/
theorem normalize_form (clock : LawfulClock) (h : clock.normalize s = some u) :
    ∃ t, clock.read? s = some t ∧ u = clock.render t ∧
      (IsStamp u ↔ 0 ≤ t.date.year ∧ t.date.year ≤ 9999) ∧
      (IsStamp u ∨ IsSigned u ∧ ∃ front ∈ edges, front.toList <+: Text.trimmed s.toList) := by
  obtain ⟨t, read, rfl⟩ := Option.map_eq_some_iff.mp h
  have proper := LawfulClock.isProper_of_read? read
  refine ⟨t, read, rfl, isStamp_render_iff proper, ?_⟩
  by_cases four : 0 ≤ t.date.year ∧ t.date.year ≤ 9999
  · exact .inl (isStamp_render proper four)
  · exact .inr ⟨isSigned_render proper four, begins_of_read? read four⟩

/-- Where clocks are ahead, the first hour of the year 0 is in the year before. -/
theorem normalize_form_ahead :
    let clock := LawfulClock.standard
    clock.normalize "0000-01-01T00:00:00+01:00" = some "-00011231230000" ∧
      ∃ t, clock.read? "0000-01-01T00:00:00+01:00" = some t ∧ "-00011231230000" = clock.render t ∧
        (IsStamp "-00011231230000" ↔ 0 ≤ t.date.year ∧ t.date.year ≤ 9999) ∧
        (IsStamp "-00011231230000" ∨ IsSigned "-00011231230000" ∧
          ∃ front ∈ edges, front.toList <+: Text.trimmed "0000-01-01T00:00:00+01:00".toList) :=
  ⟨by decide, normalize_form .standard (by decide)⟩

/-- Not every text that is read is written as fourteen digits: where clocks are behind, the last hour of the
year 9999 is in the year after. -/
theorem normalize_behind :
    normalize "9999-12-31T23:59:59-01:00" = some "+100000101005959" ∧
      ¬IsStamp "+100000101005959" := by
  decide

/-! ### Reading the wiki's form -/

theorem prepared_of_isStamp (h : IsStamp u) : prepared u = u.toList := by
  have plain : ∀ c ∈ u.toList, Text.isBlank c = false ∧ c.toUpper = c := fun c member =>
    Number.plain_of_isDigit (isDigit_iff.mpr (h.2 c member))
  have trimmed : Text.trimmed u.toList = u.toList := Text.trimmed_eq_self_iff.mpr
    ⟨fun c first => (plain c (List.mem_of_head? first)).1,
      fun c last => (plain c (List.mem_of_getLast? last)).1⟩
  rw [prepared, trimmed]
  exact (List.map_congr_left fun c member => (plain c member).2).trans (List.map_id _)

theorem ofRfc3339?_of_isStamp (h : IsStamp u) : clock.ofRfc3339? u.toList = none := by
  cases read : clock.ofRfc3339? u.toList with
  | none => rfl
  | some t =>
    obtain ⟨n, rest, -, -, -, same, -⟩ := clock.of_ofRfc3339? read
    -- RFC 3339 asks for a dash behind the year, and there is none among digits.
    have dash : '-' ∈ u.toList := by
      rw [same]
      exact List.mem_append_right _ List.mem_cons_self
    exact absurd (h.2 '-' dash) (by decide)

theorem read?_render (h : t.IsProper) (four : 0 ≤ t.date.year ∧ t.date.year ≤ 9999) :
    clock.read? (clock.render t) = some t := by
  -- The layout without marks is the first of all.
  have stamp : IsStamp (clock.render t) := isStamp_render h four
  have first := clock.ofLayout?_digits h four
  rw [← clock.toList_render h] at first
  rw [Clock.read?, prepared_of_isStamp stamp, ofRfc3339?_of_isStamp stamp]
  simp only [timeLayouts, List.cons_append, List.findSome?_cons, first, Option.none_or]

/-- With any library that keeps to what is documented of it, what is written in fourteen digits is in the
wiki's form already. -/
theorem normalize_normalize (clock : LawfulClock) (h : clock.normalize s = some u)
    (stamp : IsStamp u) : clock.normalize u = some u := by
  obtain ⟨t, read, rfl⟩ := Option.map_eq_some_iff.mp h
  have proper := LawfulClock.isProper_of_read? read
  have four := (isStamp_render_iff proper).mp stamp
  rw [Clock.normalize, read?_render proper four, Option.map_some]

/-- A leap second is kept where clocks are ahead of universal time. -/
theorem normalize_normalize_leap :
    let clock := LawfulClock.standard
    clock.normalize "2017-01-01T05:29:60+05:30" = some "20161231235960" ∧
      IsStamp "20161231235960" ∧ clock.normalize "20161231235960" = some "20161231235960" :=
  have written : LawfulClock.standard.normalize "2017-01-01T05:29:60+05:30" =
      some "20161231235960" := by decide
  have stamp : IsStamp "20161231235960" := by decide
  ⟨written, stamp, normalize_normalize .standard written stamp⟩

end WikiQuery.Timestamp

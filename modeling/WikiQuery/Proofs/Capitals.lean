import WikiQuery.Proofs.Lowering

/-!
Laws of the first capital. A text that begins with a capital stays as it is when its first letter is
made one again, and a capital brings neither white space nor any sign that is no letter.
-/

set_option autoImplicit false

namespace WikiQuery.Text

/-- Whether a code point lies before the letters of Latin-1 and is none of the capitals of ASCII. -/
def cannotBeCapital (code : Nat) : Bool :=
  code.blt 0xC0 && (code.blt 0x41 || Nat.blt 0x5A code)

/-- What the tables of capitals say, all at once: the runs are settled, and none leads to a character whose
upper case is longer or to white space, or to a sign; a longer upper case begins with a character in upper
case, and holds neither a sign nor white space. -/
private theorem upper_tables :
    ((upperRuns.all fun run => upperRuns.all run.clears) && upperRuns.all CaseRun.isValid) = true ∧
    (upperRuns.all fun run => (upperExpansions.map (·.1) ++ blankCodes).all fun code =>
      code.blt run.image || (run.image + (run.last - run.first)).blt code) = true ∧
    (upperRuns.all fun run => Nat.ble 0xC0 run.image ||
      Nat.ble 0x41 run.image && (run.image + (run.last - run.first)).ble 0x5A) = true ∧
    (upperExpansions.all fun entry => entry.2.head?.any fun code =>
      upperChar (Char.ofNat code) == [Char.ofNat code]) = true ∧
    (upperExpansions.all fun entry => (entry.2.map Char.ofNat).all fun d =>
      !cannotBeCapital d.toNat && !blankCodes.contains d.toNat) = true := by
  decide +kernel

theorem settled_upperRuns : CaseRun.Settled upperRuns :=
  have ⟨clear, valid⟩ := Bool.and_eq_true_iff.mp upper_tables.1
  .of_all clear valid

/-- Neither characters whose upper case is longer nor white space are capitals. -/
private theorem upperRuns_reach {code : Nat}
    (member : code ∈ upperExpansions.map (·.1) ++ blankCodes) :
    ∀ run ∈ upperRuns, run.reaches code = false :=
  CaseRun.reaches_eq_false_of_all upper_tables.2.1 code member

/-- All capitals are letters of ASCII, or lie behind all signs. -/
private theorem upperRuns_letters {code : Nat} (sign : cannotBeCapital code = true) :
    ∀ run ∈ upperRuns, run.reaches code = false := by
  obtain ⟨-, -, letters, -, -⟩ := upper_tables
  intro run member
  have letter := List.all_eq_true.mp letters run member
  simp only [cannotBeCapital, Bool.and_eq_true, Bool.or_eq_true, Nat.blt_eq, Nat.ble_eq] at sign letter
  rw [CaseRun.reaches_eq_false_iff]
  simp only [Bool.or_eq_true, Nat.blt_eq]
  omega

/-- A character whose upper case is longer begins with one that is in upper case. -/
private theorem expansions_begin :
    ∀ entry ∈ upperExpansions, ∃ code codes, entry.2 = code :: codes ∧
      upperChar (Char.ofNat code) = [Char.ofNat code] := by
  obtain ⟨-, -, -, fronts, -⟩ := upper_tables
  intro entry member
  have begins := List.all_eq_true.mp fronts entry member
  cases codes : entry.2 with
  | nil => simp [codes] at begins
  | cons code rest => exact ⟨code, rest, rfl, by simpa [codes] using begins⟩

/-- The upper case of a character is one of the longer ones, or a single character. -/
theorem upperChar_cases (c : Char) :
    (∃ entry ∈ upperExpansions, entry.1 = c.toNat ∧ upperChar c = entry.2.map Char.ofNat) ∨
      (∀ entry ∈ upperExpansions, entry.1 ≠ c.toNat) ∧
        upperChar c = [Char.ofNat (CaseRun.map upperRuns c.toNat)] := by
  unfold upperChar
  cases found : upperExpansions.find? (·.1 == c.toNat) with
  | some entry =>
    have named : entry.1 = c.toNat := by simpa using List.find?_some found
    exact .inl ⟨entry, List.mem_of_find?_eq_some found, named, rfl⟩
  | none => exact .inr ⟨by simpa using List.find?_eq_none.mp found, rfl⟩

/-- Upper case begins with a character that is in upper case. -/
theorem exists_upperChar_eq_cons (c : Char) :
    ∃ d ds, upperChar c = d :: ds ∧ upperChar d = [d] := by
  rcases upperChar_cases c with ⟨entry, member, -, upper⟩ | ⟨single, upper⟩
  · obtain ⟨code, codes, parts, kept⟩ := expansions_begin entry member
    exact ⟨_, _, by rw [upper, parts, List.map_cons], kept⟩
  · refine ⟨_, [], upper, ?_⟩
    have image := settled_upperRuns.toNat_ofNat_map c
    rcases upperChar_cases (Char.ofNat (CaseRun.map upperRuns c.toNat)) with
      ⟨entry, member, named, -⟩ | ⟨-, again⟩
    · -- No run leads there, so the character would have a longer upper case itself.
      have out := upperRuns_reach (List.mem_append_left _ (List.mem_map_of_mem member))
      have same := CaseRun.eq_of_map_eq (image.symm.trans named.symm) out
      exact absurd same (single entry member)
    · rw [again, image, settled_upperRuns.map_map]

/-- Signs and white space are the upper case of themselves alone. -/
theorem eq_of_mem_upperChar {c d : Char} (h : d ∈ upperChar c)
    (sign : cannotBeCapital d.toNat = true ∨ d.toNat ∈ blankCodes) : d = c := by
  rcases upperChar_cases c with ⟨entry, member, -, upper⟩ | ⟨-, upper⟩
  · obtain ⟨-, -, -, -, letters⟩ := upper_tables
    rw [upper] at h
    have letter := List.all_eq_true.mp (List.all_eq_true.mp letters entry member) d h
    rw [Bool.and_eq_true, Bool.not_eq_true', Bool.not_eq_true'] at letter
    rcases sign with sign | blank
    · rw [sign] at letter
      cases letter.1
    · rw [List.contains_iff_mem.mpr blank] at letter
      cases letter.2
  · rw [upper, List.mem_singleton] at h
    have image : CaseRun.map upperRuns c.toNat = d.toNat := by
      rw [h, settled_upperRuns.toNat_ofNat_map]
    refine Char.toNat_inj.mp (CaseRun.eq_of_map_eq image ?_)
    rcases sign with sign | blank
    · exact upperRuns_letters sign
    · exact upperRuns_reach (List.mem_append_right _ blank)

theorem isBlank_of_mem_upperChar {c d : Char} (h : d ∈ upperChar c) (solid : isBlank c = false) :
    isBlank d = false := by
  refine Bool.eq_false_iff.mpr fun blank => ?_
  have same := eq_of_mem_upperChar h (.inr (mem_blankCodes blank))
  rw [same, solid] at blank
  cases blank

theorem underscore_not_mem_upperChar {c : Char} (plain : c ≠ '_') : '_' ∉ upperChar c :=
  fun member => plain (eq_of_mem_upperChar member (.inl (by decide))).symm

/-- The first capital is made once and for all. -/
theorem capitalized_capitalized (cs : List Char) : capitalized (capitalized cs) = capitalized cs := by
  cases cs with
  | nil => rfl
  | cons c cs =>
    obtain ⟨d, ds, upper, kept⟩ := exists_upperChar_eq_cons c
    simp only [capitalized, upper, List.cons_append, kept, List.nil_append]

end WikiQuery.Text

import Mathlib.Data.List.Find
import WikiQuery.Proofs.Capitals

/-!
First letters and the names of namespaces. The name of a namespace is looked up before the first letter
of a text is made a capital. That makes no difference if the capital has the lower case of the letter;
it has another one for some letters only, such as the dotless ı, the long ſ and the ligatures.
-/

set_option autoImplicit false

namespace WikiQuery

namespace Text

variable {run : CaseRun} {s : CharSet} {c d : Char} {cs before : List Char} {name : String}

/-- Whether a letter and its capital have one lower case. -/
def LowersAlike (c : Char) : Prop :=
  lowered (upperChar c) = lowered [c]

instance (c : Char) : Decidable (LowersAlike c) :=
  inferInstanceAs (Decidable (lowered (upperChar c) = lowered [c]))

namespace CharSet

/-- The first range of a set that does not lie below a code point. -/
def rangeFrom? (s : CharSet) (code : Nat) : Option (Nat × Nat) :=
  s.ranges.find? fun range => code.ble range.2

/-- Whether one range of a set holds all code points from one to another. -/
def spans (s : CharSet) (first last : Nat) : Bool :=
  (s.rangeFrom? first).any fun range => range.1.ble first && last.ble range.2

/-- Whether no range of a set meets the code points from one to another. -/
def avoids (s : CharSet) (first last : Nat) : Bool :=
  (s.rangeFrom? first).all fun range => last.blt range.1

theorem contains_of_spans {first last : Nat} (spanned : s.spans first last = true)
    (low : first ≤ c.toNat) (high : c.toNat ≤ last) : s.contains c = true := by
  obtain ⟨range, found, held⟩ := (Option.any_eq_true _ _).mp spanned
  simp only [Bool.and_eq_true, Nat.ble_eq] at held
  exact contains_iff.mpr ⟨range, List.mem_of_find?_eq_some found, by omega, by omega⟩

private theorem le_of_ascend {range : Nat × Nat} {ranges : List (Nat × Nat)}
    (ordered : ascend (range :: ranges) = true) : range.1 ≤ range.2 := by
  cases ranges with
  | nil => simpa [ascend] using ordered
  | cons next ranges =>
    simp only [ascend, Bool.and_eq_true, decide_eq_true_eq] at ordered
    exact ordered.1.1

/-- The first range that does not lie below a code point lies below all others that do not. -/
theorem rangeFrom?_cases {ranges : List (Nat × Nat)} {range : Nat × Nat} {code : Nat}
    (ordered : ascend ranges = true) (member : range ∈ ranges) (reached : code ≤ range.2) :
    ∃ front, ranges.find? (fun range => code.ble range.2) = some front ∧ front.1 ≤ range.1 := by
  induction ranges with
  | nil => cases member
  | cons front ranges ih =>
    by_cases here : code ≤ front.2
    · refine ⟨front, List.find?_cons_of_pos (Nat.ble_eq.mpr here), ?_⟩
      rcases List.mem_cons.mp member with rfl | later
      · exact le_rfl
      · have bounds := lt_of_ascend ordered later
        exact ((le_of_ascend ordered).trans_lt bounds).le
    · rw [List.find?_cons_of_neg (by simpa using here)]
      refine ih (ascend_tail ordered) ?_
      rcases List.mem_cons.mp member with rfl | later
      · exact absurd reached here
      · exact later

theorem contains_of_avoids {first last : Nat} (avoided : s.avoids first last = true)
    (low : first ≤ c.toNat) (high : c.toNat ≤ last) : s.contains c = false := by
  refine Bool.eq_false_iff.mpr fun held => ?_
  obtain ⟨range, member, least, greatest⟩ := contains_iff.mp held
  obtain ⟨front, found, before⟩ :=
    rangeFrom?_cases s.ranges_ascend member (low.trans greatest)
  rw [avoids, rangeFrom?, found, Option.all_some, Nat.blt_eq] at avoided
  omega

/-- Whether a set holds all code points of a run and all their images: one range holds them, or they are
gone through one by one. -/
def spansRun (s : CharSet) (run : CaseRun) : Bool :=
  s.spans run.first run.last && s.spans run.image (run.image + (run.last - run.first)) ||
    (List.range (run.last - run.first + 1)).all fun i => !run.covers (run.first + i) ||
      s.spans (run.first + i) (run.first + i) && s.spans (run.image + i) (run.image + i)

theorem contains_of_spansRun (spanned : s.spansRun run = true)
    (covered : run.covers c.toNat = true) (image : d.toNat = run.apply c.toNat) :
    s.contains c = true ∧ s.contains d = true := by
  have bounds := covered
  simp only [CaseRun.covers, decide_eq_true_eq] at bounds
  rw [CaseRun.apply] at image
  rcases Bool.or_eq_true_iff.mp spanned with both | each
  · obtain ⟨whole, images⟩ := Bool.and_eq_true_iff.mp both
    exact ⟨contains_of_spans whole (by omega) (by omega),
      contains_of_spans images (by omega) (by omega)⟩
  · have code : run.first + (c.toNat - run.first) = c.toNat := by omega
    have here := List.all_eq_true.mp each (c.toNat - run.first) (List.mem_range.mpr (by omega))
    rw [code, covered, Bool.not_true, Bool.false_or, Bool.and_eq_true, ← image] at here
    exact ⟨contains_of_spans here.1 le_rfl le_rfl, contains_of_spans here.2 le_rfl le_rfl⟩

end CharSet

/-- Whether all characters of a run and all their images have case, none of them is skipped when a sigma looks
for its neighbours, and none but ASCII is mapped into ASCII. -/
private def keepsKind (run : CaseRun) : Bool :=
  cased.spansRun run && caseIgnorable.avoids run.first run.last &&
    caseIgnorable.avoids run.image (run.image + (run.last - run.first)) &&
    (run.last.blt 0x80 || Nat.ble 0x80 run.image)

/-- The runs of one character that do not keep its kind: the dotless i, the long s and the mark of a subscript
iota. -/
private def exceptions : List Nat :=
  [0x131, 0x17F, 0x345]

/-- What the tables of capitals say, all at once. -/
private theorem upperRuns_kinds :
    (upperRuns.all fun run =>
      run.first == run.last && exceptions.contains run.first || keepsKind run) = true ∧
    (exceptions.all fun code => !decide (LowersAlike (Char.ofNat code))) = true ∧
    (upperExpansions.all fun entry =>
      Nat.blt 1 entry.2.length && entry.1 != '\u0130'.toNat) = true := by
  decide +kernel

/-- A text is at least as long in lower case. -/
theorem length_le_lowerAfter (before cs : List Char) :
    cs.length ≤ (lowerAfter before cs).length := by
  induction cs generalizing before with
  | nil => exact Nat.zero_le _
  | cons c cs ih =>
    obtain ⟨front, parts, inhabited, -⟩ := lowerAfter_cons before c cs
    have some := List.length_pos_iff.mpr inhabited
    have rest := ih (c :: before)
    rw [parts, List.length_cons, List.length_append]
    omega

theorem length_lowered_singleton (other : c ≠ '\u0130') : (lowered [c]).length = 1 := by
  rw [lowered, lowerAfter, lowerChar, if_neg other]
  split
  · rfl
  · rfl

/-- A letter that lowers as its capital does has a single capital, of its own kind. -/
theorem LowersAlike.exists_upperChar_eq (alike : LowersAlike c) :
    ∃ d, upperChar c = [d] ∧ cased.contains d = cased.contains c ∧
      caseIgnorable.contains d = caseIgnorable.contains c ∧ (0x80 ≤ c.toNat → 0x80 ≤ d.toNat) := by
  obtain ⟨kinds, odd, longer⟩ := upperRuns_kinds
  rcases upperChar_cases c with ⟨entry, member, named, upper⟩ | ⟨-, upper⟩
  · -- Several capitals have several letters in lower case, and the letter itself has one.
    have several := List.all_eq_true.mp longer entry member
    simp only [Bool.and_eq_true, bne_iff_ne, Nat.blt_eq] at several
    have single : (lowered [c]).length = 1 := by
      refine length_lowered_singleton fun dotted => several.2 ?_
      rw [named, dotted]
    have most := length_le_lowerAfter [] (upperChar c)
    rw [← lowered, alike, single, upper, List.length_map] at most
    omega
  · refine ⟨_, upper, ?_⟩
    have image := settled_upperRuns.toNat_ofNat_map c
    rcases CaseRun.map_cases upperRuns c.toNat with same | ⟨run, member, covered, made⟩
    · rw [same, Char.ofNat_toNat]
      exact ⟨rfl, rfl, id⟩
    · have bounds := covered
      simp only [CaseRun.covers, decide_eq_true_eq] at bounds
      rw [made] at image ⊢
      rcases Bool.or_eq_true_iff.mp (List.all_eq_true.mp kinds run member) with single | kept
      · -- The letter is the only one of its run, and one of the exceptions.
        simp only [Bool.and_eq_true, beq_iff_eq, List.contains_iff_mem] at single
        have code : run.first = c.toNat := by omega
        have other := List.all_eq_true.mp odd run.first single.2
        rw [code, Char.ofNat_toNat] at other
        simp [alike] at other
      · simp only [keepsKind, Bool.and_eq_true, Bool.or_eq_true, Nat.blt_eq, Nat.ble_eq] at kept
        obtain ⟨⟨⟨spanned, avoided⟩, avoided'⟩, ascii⟩ := kept
        obtain ⟨casing, casing'⟩ := CharSet.contains_of_spansRun spanned covered image
        rw [CaseRun.apply] at image
        have plain := CharSet.contains_of_avoids (c := c) avoided (by omega) (by omega)
        have plain' := CharSet.contains_of_avoids (c := Char.ofNat (run.apply c.toNat)) avoided'
          (by rw [CaseRun.apply]; omega) (by rw [CaseRun.apply]; omega)
        refine ⟨casing'.trans casing.symm, plain'.trans plain.symm, fun high => ?_⟩
        rw [CaseRun.apply]
        omega

theorem meetsCased_cons (c : Char) (cs : List Char) :
    meetsCased (c :: cs) =
      if caseIgnorable.contains c then meetsCased cs else cased.contains c := by
  unfold meetsCased
  rw [List.dropWhile_cons]
  by_cases skipped : caseIgnorable.contains c = true
  · rw [if_pos skipped, if_pos skipped]
  · rw [if_neg skipped, if_neg skipped]

theorem meetsCased_singleton (kind : cased.contains d = cased.contains c)
    (kind' : caseIgnorable.contains d = caseIgnorable.contains c) : meetsCased [d] = meetsCased [c] := by
  rw [meetsCased_cons, meetsCased_cons, kind, kind']

/-- All that a text in lower case sees of what stands before it is whether a letter with case does. -/
theorem lowerAfter_congr {before' : List Char} (same : meetsCased before = meetsCased before')
    (cs : List Char) : lowerAfter before cs = lowerAfter before' cs := by
  induction cs generalizing before before' with
  | nil => rfl
  | cons c cs ih =>
    have next : meetsCased (c :: before) = meetsCased (c :: before') := by
      rw [meetsCased_cons, meetsCased_cons, same]
    rw [lowerAfter_cons_eq, lowerAfter_cons_eq, same, ih next]

theorem lowered_cons (c : Char) (cs : List Char) :
    lowered (c :: cs) = lowered [c] ++ lowerAfter [c] cs := by
  have start : meetsCased [] = false := rfl
  simp only [lowered, lowerAfter, start, Bool.false_and, List.append_nil]

/-- The first capital does not show in lower case. -/
theorem lowered_capitalized (alike : LowersAlike c) (cs : List Char) :
    lowered (capitalized (c :: cs)) = lowered (c :: cs) := by
  obtain ⟨d, upper, kind, kind', -⟩ := alike.exists_upperChar_eq
  have first : lowered [d] = lowered [c] := upper ▸ alike
  have rest := lowerAfter_congr (meetsCased_singleton kind kind') cs
  rw [capitalized, upper, List.singleton_append, lowered_cons d, lowered_cons c, first, rest]

/-- What the tables of capitals say of ASCII. -/
private theorem upperRuns_ascii :
    (upperRuns.all fun run => Nat.ble 0x80 run.first ||
      (List.range (run.last - run.first + 1)).all fun i =>
        (Char.ofNat (run.image + i)).toLower == (Char.ofNat (run.first + i)).toLower) = true ∧
    (upperExpansions.all fun entry => Nat.ble 0x80 entry.1) = true := by
  decide +kernel

/-- What the capitals of ASCII are when the case of ASCII does not count. -/
theorem upperChar_ascii (low : c.toNat < 0x80) :
    (upperChar c).map Char.toLower = [c.toLower] := by
  obtain ⟨runs, expansions⟩ := upperRuns_ascii
  rcases upperChar_cases c with ⟨entry, member, named, -⟩ | ⟨-, upper⟩
  · have high := Nat.ble_eq.mp (List.all_eq_true.mp expansions entry member)
    omega
  · rw [upper, List.map_singleton, List.singleton_inj]
    rcases CaseRun.map_cases upperRuns c.toNat with same | ⟨run, member, covered, made⟩
    · rw [same, Char.ofNat_toNat]
    · simp only [CaseRun.covers, decide_eq_true_eq] at covered
      rcases Bool.or_eq_true_iff.mp (List.all_eq_true.mp runs run member) with high | letters
      · have := Nat.ble_eq.mp high
        omega
      · have code : run.first + (c.toNat - run.first) = c.toNat := by omega
        have image := List.all_eq_true.mp letters (c.toNat - run.first)
          (List.mem_range.mpr (by omega))
        rw [beq_iff_eq, code, Char.ofNat_toNat] at image
        rw [made, CaseRun.apply, image]

/-- Without regard to the case of ASCII, letters agree one by one. -/
theorem eqIgnoringCase_ofList_iff {cs : List Char} : eqIgnoringCase name (String.ofList cs) = true ↔
    name.toList.map Char.toLower = cs.map Char.toLower := by
  rw [eqIgnoringCase, beq_iff_eq, ← String.toList_inj, toList_lowerAscii, toList_lowerAscii,
    String.toList_ofList]

/-- A text of ASCII agrees with none that has a letter of another kind. -/
theorem eqIgnoringCase_eq_false_of_high (ascii : ∀ c ∈ name.toList, c.toNat < 0x80)
    (member : d ∈ cs) (high : 0x80 ≤ d.toNat) : eqIgnoringCase name (String.ofList cs) = false := by
  refine Bool.eq_false_iff.mpr fun agree => ?_
  have there : d.toLower ∈ cs.map Char.toLower := List.mem_map.mpr ⟨d, member, rfl⟩
  rw [← eqIgnoringCase_ofList_iff.mp agree] at there
  obtain ⟨c, inside, image⟩ := List.mem_map.mp there
  have within := toNat_toLower_lt_iff.mpr (ascii c inside)
  rw [image, toNat_toLower_lt_iff] at within
  omega

/-- The first capital does not show where the text is compared with one of ASCII, without regard to case. -/
theorem eqIgnoringCase_capitalized (ascii : ∀ c ∈ name.toList, c.toNat < 0x80)
    (alike : LowersAlike c) (cs : List Char) :
    eqIgnoringCase name (String.ofList (capitalized (c :: cs))) =
      eqIgnoringCase name (String.ofList (c :: cs)) := by
  obtain ⟨d, upper, -, -, high⟩ := alike.exists_upperChar_eq
  by_cases low : c.toNat < 0x80
  · have same := upperChar_ascii low
    rw [upper, List.map_singleton, List.singleton_inj] at same
    rw [Bool.eq_iff_iff, eqIgnoringCase_ofList_iff, eqIgnoringCase_ofList_iff, capitalized, upper,
      List.singleton_append, List.map_cons, List.map_cons, same]
  · -- Neither text begins with a letter of ASCII.
    have beyond : 0x80 ≤ c.toNat := Nat.le_of_not_lt low
    rw [capitalized, upper, List.singleton_append,
      eqIgnoringCase_eq_false_of_high ascii List.mem_cons_self (high beyond),
      eqIgnoringCase_eq_false_of_high ascii List.mem_cons_self beyond]

end Text

end WikiQuery

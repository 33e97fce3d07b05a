import WikiQuery.Proofs.Law
import WikiQuery.Proofs.Lowering
import WikiQuery.Proofs.TwoRuns

/-!
The least and the most number of categories of a page. They are given as digits with a comma between them,
and either may be missing. The digits are those of all scripts; lower case, in which the text is matched,
has no part in them, so what is stored is what was given.
-/

set_option autoImplicit false

namespace WikiQuery

namespace Text

variable {c : Char} {cs : List Char}

/-- A character that is in lower case, and the lower case of nothing else. -/
structure LowersAlone (c : Char) : Prop where
  inLowerCase : InLowerCase c
  alone : ∀ d, c ∈ lowerForms d → d = c

theorem exists_mem_lowerAfter (member : c ∈ cs) (before : List Char) :
    ∃ d ∈ lowerAfter before cs, d ∈ lowerForms c := by
  induction cs generalizing before with
  | nil => cases member
  | cons d cs ih =>
    obtain ⟨front, parts, inhabited, forms⟩ := lowerAfter_cons before d cs
    rw [parts]
    rcases List.mem_cons.mp member with rfl | later
    · obtain ⟨form, made⟩ := List.exists_mem_of_ne_nil front inhabited
      exact ⟨form, List.mem_append_left _ made, forms form made⟩
    · obtain ⟨form, made, lowers⟩ := ih later (d :: before)
      exact ⟨form, List.mem_append_right _ made, lowers⟩

/-- A text of such characters is its own lower case. -/
theorem lowered_of_lowersAlone (alone : ∀ c ∈ cs, LowersAlone c) : lowered cs = cs :=
  lowerAfter_of_inLowerCase fun c member => (alone c member).inLowerCase

/-- No other text has a lower case that is made of them. -/
theorem forall_mem_lowered_iff {P : Char → Prop} (alone : ∀ c, P c → LowersAlone c) :
    (∀ c ∈ lowered cs, P c) ↔ ∀ c ∈ cs, P c := by
  constructor
  · intro all c member
    obtain ⟨d, made, form⟩ := exists_mem_lowerAfter member []
    exact (alone d (all d made)).alone c form ▸ all d made
  · intro all
    rwa [lowered_of_lowersAlone fun c member => alone c (all c member)]

/-- The comma and the digits, as ranges of code points. -/
private def signRanges : List (Nat × Nat) :=
  (','.toNat, ','.toNat) :: decimalDigits.ranges

/-- What the table of small letters says of the comma and the digits: no run covers or reaches them, and
they are no exceptions. -/
private theorem signRanges_apart :
    (lowerRuns.all fun run => signRanges.all fun range =>
      (range.2.blt run.first || run.last.blt range.1) &&
        (range.2.blt run.image || (run.image + (run.last - run.first)).blt range.1)) = true ∧
    (['\u0130', capitalSigma, 'i', '\u0307', finalSigma, smallSigma].all fun c =>
      signRanges.all fun range => c.toNat.blt range.1 || range.2.blt c.toNat) = true := by
  decide +kernel

private theorem lowersAlone_of_range {range : Nat × Nat} (listed : range ∈ signRanges)
    (low : range.1 ≤ c.toNat) (high : c.toNat ≤ range.2) : LowersAlone c := by
  have plain : ∀ d ∈ ['\u0130', capitalSigma, 'i', '\u0307', finalSigma, smallSigma], c ≠ d := by
    rintro d member rfl
    have apart := List.all_eq_true.mp (List.all_eq_true.mp signRanges_apart.2 c member) range listed
    simp only [Bool.or_eq_true, Nat.blt_eq] at apart
    omega
  have apart : ∀ run ∈ lowerRuns,
      run.covers c.toNat = false ∧ run.reaches c.toNat = false := by
    intro run member
    have apart := List.all_eq_true.mp (List.all_eq_true.mp signRanges_apart.1 run member) range listed
    simp only [Bool.and_eq_true, Bool.or_eq_true, Nat.blt_eq] at apart
    simp only [CaseRun.covers, CaseRun.reaches, decide_eq_false_iff_not]
    omega
  have fixed := CaseRun.map_of_forall_covers_eq_false fun run member => (apart run member).1
  refine ⟨⟨plain _ (by simp), ?_⟩, fun d form => ?_⟩
  · rw [lowerChar, if_neg (plain _ (by simp)), fixed, Char.ofNat_toNat]
  · refine (eq_of_mem_lowerForms form (fun run member => (apart run member).2) ?_).symm
    intro member
    exact plain c (List.mem_cons_of_mem _ (List.mem_cons_of_mem _ member)) rfl

theorem lowersAlone_of_digit (digit : c = ',' ∨ CharClass.digit.contains c = true) :
    LowersAlone c := by
  rcases digit with rfl | digit
  · exact lowersAlone_of_range List.mem_cons_self (Nat.le_refl _) (Nat.le_refl _)
  · have known : decimalDigits.contains c = true := (Bool.and_eq_true_iff.mp digit).1
    obtain ⟨range, listed, low, high⟩ := CharSet.contains_iff.mp known
    exact lowersAlone_of_range (List.mem_cons_of_mem _ listed) low high

/-- Digits and a comma at most are their own lower case. -/
theorem lowered_of_spans (h : CharClass.digit.Spans ',' cs) : lowered cs = cs :=
  lowered_of_lowersAlone fun c member => lowersAlone_of_digit (h.1 c member)

/-- They are no other text's lower case. -/
theorem spans_lowered_iff :
    CharClass.digit.Spans ',' (lowered cs) ↔ CharClass.digit.Spans ',' cs := by
  constructor
  · rintro ⟨all, once⟩
    have known := (forall_mem_lowered_iff fun c => lowersAlone_of_digit).mp all
    rw [lowered_of_lowersAlone fun c member => lowersAlone_of_digit (known c member)] at once
    exact ⟨known, once⟩
  · intro spans
    rwa [lowered_of_spans spans]

end Text

namespace Engine

variable {e : Engine}

theorem digit_comma : CharClass.digit.contains ',' = false := by
  decide +kernel

/-- The parameter for the least and the most number of categories, and what it makes of a text. -/
theorem lookup_categoriesMinMax (standard : e.registry = .standard)
    (rich : 2 ≤ e.settings.richness) :
    ∃ p, e.lookup "categoriesminmax" = .ok p ∧ ∀ spec text,
      Reading.change? e.settings e.host p spec text =
        ((Pattern.twoRuns .digit ',').captures? (Text.lower text)).map fun groups =>
          { writes := [("categoriesminmax", .list groups)] } := by
  have known : e.registry.find? "categoriesminmax" =
      some { name := "categoriesminmax", richness := 2, pattern := some "^(\\d*),?(\\d*)$" } := by
    rw [standard]
    decide +kernel
  have pattern : Pattern.ofSource? "^(\\d*),?(\\d*)$" = some (.twoRuns .digit ',') := by
    decide +kernel
  refine ⟨_, lookup_eq_ok_iff.mpr ⟨by decide, known, rich, by simp⟩, fun spec text => ?_⟩
  simp [Reading.change?, Reading.staged?, Parameter.allows, Reading.prepared, Reading.textualValue?,
    Reading.capturedGroups?, e.host.patterns.leftmostFirst pattern, Pattern.captures?_eq_preferred?,
    Function.comp_def]

/-- The two parts of a text, in front of the first comma and behind it. -/
theorem groups_of_divides {cs front back : List Char} (divides : CharClass.digit.Divides ',' cs front back) :
    [String.ofList front, String.ofList back] =
      match Text.cut? ',' cs with
      | some (least, most) => [String.ofList least, String.ofList most]
      | none => [String.ofList cs, ""] := by
  have parts := Pattern.cut?_of_divides digit_comma divides
  cases cut : Text.cut? ',' cs with
  | none =>
    rw [cut] at parts
    obtain ⟨rfl, rfl⟩ := Prod.mk.inj parts
    rfl
  | some pair =>
    rw [cut] at parts
    obtain rfl := parts
    rfl

/-- What the pattern takes, and what it takes it for. -/
theorem captures?_lower_eq_some_iff {text : String} {groups : List String} :
    (Pattern.twoRuns .digit ',').captures? (Text.lower text) = some groups ↔
      CharClass.digit.Spans ',' text.toList ∧
        groups =
          match Text.cut? ',' text.toList with
          | some (least, most) => [String.ofList least, String.ofList most]
          | none => [text, ""] := by
  rw [Pattern.captures?_twoRuns_eq_some_iff digit_comma, Text.lower, String.toList_ofList]
  constructor
  · rintro ⟨front, back, divides, rfl⟩
    have spans := Text.spans_lowered_iff.mp (Pattern.spans_of_divides digit_comma divides)
    rw [Text.lowered_of_spans spans] at divides
    exact ⟨spans, by rw [groups_of_divides divides, String.ofList_toList]⟩
  · rintro ⟨spans, rfl⟩
    obtain ⟨front, back, divides⟩ := Pattern.exists_divides_of_spans spans
    rw [Text.lowered_of_spans spans]
    exact ⟨front, back, divides, by rw [groups_of_divides divides, String.ofList_toList]⟩

/-- A text is taken for the least and the most number of categories if it holds digits and at most one
comma, and nothing else. What is stored is the text in front of the comma, the whole text if there is no
comma, and the text behind it, which is empty then. -/
theorem process_categoriesMinMax (standard : e.registry = .standard)
    (rich : 2 ≤ e.settings.richness) (s : Session) (text : String) :
    ((e.process s "categoriesminmax" text).2 = none ↔
      (∀ d ∈ text.toList, d = ',' ∨ CharClass.digit.contains d = true) ∧
        text.toList.count ',' ≤ 1) ∧
    ((e.process s "categoriesminmax" text).2 = none →
      (e.process s "categoriesminmax" text).1.spec.value? "categoriesminmax" = some (.list
        (match Text.cut? ',' text.toList with
          | some (least, most) => [String.ofList least, String.ofList most]
          | none => [text, ""]))) := by
  obtain ⟨p, found, reads⟩ := lookup_categoriesMinMax standard rich
  have read := reads s.spec text
  cases matched : (Pattern.twoRuns .digit ',').captures? (Text.lower text) with
  | none =>
    rw [matched, Option.map_none] at read
    have other : ¬CharClass.digit.Spans ',' text.toList := by
      intro spans
      have taken := captures?_lower_eq_some_iff.mpr ⟨spans, rfl⟩
      rw [matched] at taken
      cases taken
    rw [process_of_refused found read]
    refine ⟨⟨?_, fun spans => absurd spans other⟩, ?_⟩
    · rintro ⟨⟩
    · rintro ⟨⟩
  | some groups =>
    rw [matched, Option.map_some] at read
    obtain ⟨spans, rfl⟩ := captures?_lower_eq_some_iff.mp matched
    rw [process_of_accepted found read]
    exact ⟨⟨fun _ => spans, fun _ => rfl⟩, fun _ => Specification.value?_write_singleton _ _ _⟩

/-- A digit of another script is a digit too; two commas are one too many. -/
theorem process_categoriesMinMax_two :
    let e : Engine := ⟨.standard, {}, Site.host {}⟩
    e.registry = .standard ∧ 2 ≤ e.settings.richness ∧
      (e.process e.start "categoriesminmax" "12,٣").1.spec.value? "categoriesminmax" =
        some (.list ["12", "٣"]) ∧
      (e.process e.start "categoriesminmax" "12").1.spec.value? "categoriesminmax" =
        some (.list ["12", ""]) ∧
      (e.process e.start "categoriesminmax" "1,2,3").2 ≠ none := by
  intro e
  have rich : 2 ≤ e.settings.richness := by decide
  have parted : CharClass.digit.Spans ',' "12,٣".toList := by decide +kernel
  have alone : CharClass.digit.Spans ',' "12".toList := by decide +kernel
  have many : ¬CharClass.digit.Spans ',' "1,2,3".toList := by decide +kernel
  obtain ⟨answer, stored⟩ := process_categoriesMinMax (e := e) rfl rich e.start "12,٣"
  obtain ⟨answer', stored'⟩ := process_categoriesMinMax (e := e) rfl rich e.start "12"
  obtain ⟨answer'', -⟩ := process_categoriesMinMax (e := e) rfl rich e.start "1,2,3"
  exact ⟨rfl, rich, stored (answer.mpr parted), stored' (answer'.mpr alone),
    fun taken => many (answer''.mp taken)⟩

end Engine

end WikiQuery

import Mathlib.Tactic.SplitIfs
import WikiQuery.Text.Blank
import WikiQuery.Text.Case
import WikiQuery.Text.Split

/-!
Laws of lower case. A text in lower case stays as it is when it is lowered again, lowering makes no
white space and no sign that is no letter, and it does not see whether ASCII letters were lowered
before.
-/

set_option autoImplicit false

namespace WikiQuery.Text

namespace CaseRun

variable {run other : CaseRun} {runs : List CaseRun} {code : Nat}

/-- Whether a code point lies among the images of a run, or between them. -/
def reaches (run : CaseRun) (code : Nat) : Bool :=
  decide (run.image ≤ code ∧ code ≤ run.image + (run.last - run.first))

/-- Whether no image of a run can be covered by another: they lie apart, or they take turns. -/
def clears (run other : CaseRun) : Bool :=
  (run.image + (run.last - run.first)).blt other.first || other.last.blt run.image ||
    (other.step.beq 2 && (run.first.beq run.last || run.step.beq 2) &&
      ((run.image + other.first) % 2).beq 1)

theorem reaches_apply (covered : run.covers code = true) : run.reaches (run.apply code) = true := by
  simp only [covers, reaches, decide_eq_true_eq] at covered ⊢
  unfold apply
  omega

theorem reaches_eq_false_iff : run.reaches code = false ↔
    (code.blt run.image || (run.image + (run.last - run.first)).blt code) = true := by
  simp only [reaches, decide_eq_false_iff_not, Bool.or_eq_true, Nat.blt_eq]
  omega

theorem covers_apply_of_clears (clear : run.clears other = true)
    (covered : run.covers code = true) : other.covers (run.apply code) = false := by
  simp only [clears, Bool.or_eq_true, Bool.and_eq_true, Nat.blt_eq, Nat.beq_eq] at clear
  simp only [covers, decide_eq_true_eq] at covered
  simp only [covers, decide_eq_false_iff_not]
  unfold apply
  rintro ⟨low, high, step⟩
  rcases clear with (below | above) | ⟨⟨two, alike⟩, odd⟩
  · omega
  · omega
  · -- Both go by twos, or there is one image only: it has the parity that the other run lacks.
    rw [two] at step
    rcases alike with single | both
    · omega
    · rw [both] at covered
      omega

theorem map_cases (runs : List CaseRun) (code : Nat) :
    map runs code = code ∨
      ∃ run ∈ runs, run.covers code = true ∧ map runs code = run.apply code := by
  unfold map
  cases found : runs.find? (·.covers code) with
  | none => exact .inl rfl
  | some run =>
    have covered : run.covers code = true := by simpa using List.find?_some found
    exact .inr ⟨run, List.mem_of_find?_eq_some found, covered, rfl⟩

theorem map_of_forall_covers_eq_false (h : ∀ run ∈ runs, run.covers code = false) :
    map runs code = code := by
  have none : runs.find? (·.covers code) = none := List.find?_eq_none.mpr (by simpa using h)
  simp only [map, none]

/-- What is no image stands for itself alone. -/
theorem eq_of_map_eq {image : Nat} (h : map runs code = image)
    (out : ∀ run ∈ runs, run.reaches image = false) : image = code := by
  rcases map_cases runs code with same | ⟨run, member, covered, made⟩
  · exact h.symm.trans same
  · have reached := reaches_apply covered
    rw [← made, h, out run member] at reached
    cases reached

/-- The runs are gone through once for all codes: that is the quick way to check a table. -/
theorem reaches_eq_false_of_all {codes : List Nat}
    (apart : (runs.all fun run => codes.all fun code =>
      code.blt run.image || (run.image + (run.last - run.first)).blt code) = true) :
    ∀ code ∈ codes, ∀ run ∈ runs, run.reaches code = false := by
  intro code member run listed
  have clear := List.all_eq_true.mp (List.all_eq_true.mp apart run listed) code member
  exact reaches_eq_false_iff.mpr clear

/-- Whether the images of a run are characters. -/
def isValid (run : CaseRun) : Bool :=
  decide (run.image + (run.last - run.first) < 0xD800 ∨
    0xDFFF < run.image ∧ run.image + (run.last - run.first) < 0x110000)

/-- The runs of a mapping that maps characters once and for all: their images are characters, and no run
covers any of them. -/
structure Settled (runs : List CaseRun) : Prop where
  clear : ∀ run ∈ runs, ∀ other ∈ runs, run.clears other = true
  valid : ∀ run ∈ runs, run.isValid = true

theorem Settled.of_all (clear : (runs.all fun run => runs.all run.clears) = true)
    (valid : runs.all isValid = true) : Settled runs where
  clear run member := List.all_eq_true.mp (List.all_eq_true.mp clear run member)
  valid := List.all_eq_true.mp valid

theorem Settled.map_map (settled : Settled runs) (code : Nat) :
    map runs (map runs code) = map runs code := by
  rcases map_cases runs code with same | ⟨run, member, covered, image⟩
  · rw [same, same]
  · rw [image]
    apply map_of_forall_covers_eq_false
    intro other member'
    exact covers_apply_of_clears (settled.clear run member other member') covered

theorem Settled.isValidChar_map (settled : Settled runs) (c : Char) :
    (map runs c.toNat).isValidChar := by
  rcases map_cases runs c.toNat with same | ⟨run, member, covered, image⟩
  · rw [same]
    exact c.valid
  · have reached := reaches_apply covered
    have bounds := settled.valid run member
    simp only [reaches, isValid, decide_eq_true_eq] at reached bounds
    rw [image]
    unfold Nat.isValidChar
    omega

theorem Settled.toNat_ofNat_map (settled : Settled runs) (c : Char) :
    (Char.ofNat (map runs c.toNat)).toNat = map runs c.toNat := by
  rw [Char.ofNat, dif_pos (settled.isValidChar_map c)]
  rfl

end CaseRun

/-- The code points of white space. -/
def blankCodes : List Nat :=
  [0x09, 0x0A, 0x0B, 0x0C, 0x0D, 0x20, 0x85, 0xA0, 0x1680, 0x2000, 0x2001, 0x2002, 0x2003, 0x2004,
    0x2005, 0x2006, 0x2007, 0x2008, 0x2009, 0x200A, 0x2028, 0x2029, 0x202F, 0x205F, 0x3000]

theorem mem_blankCodes {c : Char} (h : isBlank c = true) : c.toNat ∈ blankCodes := by
  simp only [isBlank, decide_eq_true_eq] at h
  simp only [blankCodes, List.mem_cons, List.not_mem_nil, or_false]
  omega

/-- What the table of small letters says, all at once: it is settled, neither white space nor the dotted
capital is an image, and the small letters of the sigma and of the dotted capital are their own. -/
private theorem lower_tables :
    ((lowerRuns.all fun run => lowerRuns.all run.clears) && lowerRuns.all CaseRun.isValid) = true ∧
    (lowerRuns.all fun run => (0x130 :: blankCodes).all fun code =>
      code.blt run.image || (run.image + (run.last - run.first)).blt code) = true ∧
    (['i', '\u0307', finalSigma, smallSigma].all fun c =>
      c != capitalSigma && lowerChar c == [c]) = true ∧
    (CaseRun.map lowerRuns capitalSigma.toNat != capitalSigma.toNat) = true := by
  decide +kernel

theorem settled_lowerRuns : CaseRun.Settled lowerRuns :=
  have ⟨clear, valid⟩ := Bool.and_eq_true_iff.mp lower_tables.1
  .of_all clear valid

/-- Neither white space nor the dotted capital is a small letter. -/
private theorem lowerRuns_reach {code : Nat} (member : code ∈ 0x130 :: blankCodes) :
    ∀ run ∈ lowerRuns, run.reaches code = false :=
  CaseRun.reaches_eq_false_of_all lower_tables.2.1 code member

/-- A character is in lower case if lowering it, wherever it stands, leaves it as it is. -/
def InLowerCase (c : Char) : Prop :=
  c ≠ capitalSigma ∧ lowerChar c = [c]

private theorem inLowerCase_of_mem {d : Char} (member : d ∈ ['i', '\u0307', finalSigma, smallSigma]) :
    InLowerCase d := by
  have fixed := List.all_eq_true.mp lower_tables.2.2.1 d member
  simp only [Bool.and_eq_true, bne_iff_ne, beq_iff_eq] at fixed
  exact fixed

/-- What can come of a character by lowering; a capital sigma has two forms. -/
def lowerForms (c : Char) : List Char :=
  if c = capitalSigma then [finalSigma, smallSigma] else lowerChar c

private theorem mem_lowerChar_cases {c d : Char} (h : d ∈ lowerChar c) :
    d = 'i' ∨ d = '\u0307' ∨ c ≠ '\u0130' ∧ d.toNat = CaseRun.map lowerRuns c.toNat := by
  unfold lowerChar at h
  split at h
  · simp only [List.mem_cons, List.not_mem_nil, or_false] at h
    rcases h with rfl | rfl
    · exact .inl rfl
    · exact .inr (.inl rfl)
  · rename_i plain
    obtain rfl := List.mem_singleton.mp h
    exact .inr (.inr ⟨plain, settled_lowerRuns.toNat_ofNat_map c⟩)

private theorem lowerChar_of_map_eq {d : Char} (plain : d ≠ '\u0130')
    (same : CaseRun.map lowerRuns d.toNat = d.toNat) : lowerChar d = [d] := by
  rw [lowerChar, if_neg plain, same, Char.ofNat_toNat]

/-- What comes of a character by lowering is in lower case. -/
theorem inLowerCase_of_mem_lowerForms {c d : Char} (h : d ∈ lowerForms c) : InLowerCase d := by
  unfold lowerForms at h
  split at h
  · exact inLowerCase_of_mem (List.mem_cons_of_mem _ (List.mem_cons_of_mem _ h))
  · rcases mem_lowerChar_cases h with rfl | rfl | ⟨plain, image⟩
    · exact inLowerCase_of_mem (by simp)
    · exact inLowerCase_of_mem (by simp)
    · have fixed : CaseRun.map lowerRuns d.toNat = d.toNat := by
        rw [image]
        exact settled_lowerRuns.map_map c.toNat
      refine ⟨?_, lowerChar_of_map_eq ?_ fixed⟩
      · rintro rfl
        exact bne_iff_ne.mp lower_tables.2.2.2 fixed
      · -- No run reaches the dotted capital, so it could only come of itself.
        rintro rfl
        have same := CaseRun.eq_of_map_eq image.symm (lowerRuns_reach List.mem_cons_self)
        exact plain (Char.toNat_inj.mp same.symm)

/-- A character that no run reaches comes of itself alone. -/
theorem eq_of_mem_lowerForms {c d : Char} (h : d ∈ lowerForms c)
    (out : ∀ run ∈ lowerRuns, run.reaches d.toNat = false)
    (other : d ∉ ['i', '\u0307', finalSigma, smallSigma]) : d = c := by
  simp only [List.mem_cons, List.not_mem_nil, or_false, not_or] at other
  unfold lowerForms at h
  split at h
  · simp only [List.mem_cons, List.not_mem_nil, or_false] at h
    rcases h with rfl | rfl
    · exact absurd rfl other.2.2.1
    · exact absurd rfl other.2.2.2
  · rcases mem_lowerChar_cases h with rfl | rfl | ⟨-, image⟩
    · exact absurd rfl other.1
    · exact absurd rfl other.2.1
    · exact Char.toNat_inj.mp (CaseRun.eq_of_map_eq image.symm out)

/-- No white space comes of what is none. -/
theorem isBlank_of_mem_lowerForms {c d : Char} (h : d ∈ lowerForms c) (solid : isBlank c = false) :
    isBlank d = false := by
  refine Bool.eq_false_iff.mpr fun blank => ?_
  have letters : (['i', '\u0307', finalSigma, smallSigma].any isBlank) = false := by decide
  have other : d ∉ ['i', '\u0307', finalSigma, smallSigma] := by
    intro member
    rw [List.any_eq_true.mpr ⟨d, member, blank⟩] at letters
    cases letters
  have code := List.mem_cons_of_mem 0x130 (mem_blankCodes blank)
  have same := eq_of_mem_lowerForms h (lowerRuns_reach code) other
  rw [same, solid] at blank
  cases blank

theorem lowerForms_ne_nil (c : Char) : lowerForms c ≠ [] := by
  unfold lowerForms lowerChar
  split_ifs <;> simp

/-- The lower case of a character; `front` and `back` say whether a letter with case stands on either side. -/
def lowerBetween (front back : Bool) (c : Char) : List Char :=
  if c = capitalSigma then [if front && !back then finalSigma else smallSigma] else lowerChar c

theorem lowerAfter_cons_eq (before : List Char) (c : Char) (cs : List Char) :
    lowerAfter before (c :: cs) =
      lowerBetween (meetsCased before) (meetsCased cs) c ++ lowerAfter (c :: before) cs :=
  rfl

theorem lowerBetween_ne_nil (front back : Bool) (c : Char) : lowerBetween front back c ≠ [] := by
  unfold lowerBetween
  split
  · exact List.cons_ne_nil _ _
  · rename_i other
    have inhabited := lowerForms_ne_nil c
    rwa [lowerForms, if_neg other] at inhabited

theorem mem_lowerForms_of_mem_lowerBetween {front back : Bool} {c d : Char}
    (h : d ∈ lowerBetween front back c) : d ∈ lowerForms c := by
  unfold lowerForms
  unfold lowerBetween at h
  split at h
  · rename_i sigma
    rw [if_pos sigma]
    split at h <;> simp_all
  · rename_i other
    rwa [if_neg other]

/-- The lower case of a text is made character by character; where a sigma stands tells its form. -/
theorem lowerAfter_cons (before : List Char) (c : Char) (cs : List Char) :
    ∃ front, lowerAfter before (c :: cs) = front ++ lowerAfter (c :: before) cs ∧
      front ≠ [] ∧ ∀ d ∈ front, d ∈ lowerForms c :=
  ⟨_, lowerAfter_cons_eq before c cs, lowerBetween_ne_nil _ _ c,
    fun _ => mem_lowerForms_of_mem_lowerBetween⟩

theorem mem_lowerAfter {before cs : List Char} {d : Char} (h : d ∈ lowerAfter before cs) :
    ∃ c ∈ cs, d ∈ lowerForms c := by
  induction cs generalizing before with
  | nil => simp [lowerAfter] at h
  | cons c cs ih =>
    obtain ⟨front, parts, -, forms⟩ := lowerAfter_cons before c cs
    rw [parts] at h
    rcases List.mem_append.mp h with here | later
    · exact ⟨c, List.mem_cons_self, forms d here⟩
    · obtain ⟨c', member, form⟩ := ih later
      exact ⟨c', List.mem_cons_of_mem c member, form⟩

theorem lowerAfter_of_inLowerCase {before cs : List Char} (h : ∀ c ∈ cs, InLowerCase c) :
    lowerAfter before cs = cs := by
  induction cs generalizing before with
  | nil => rfl
  | cons c cs ih =>
    obtain ⟨noSigma, same⟩ := h c List.mem_cons_self
    rw [lowerAfter, if_neg noSigma, same, List.singleton_append,
      ih fun d member => h d (List.mem_cons_of_mem c member)]

/-- Lower case is made once and for all. -/
theorem lowered_lowered (cs : List Char) : lowered (lowered cs) = lowered cs := by
  apply lowerAfter_of_inLowerCase
  intro d member
  obtain ⟨c, -, form⟩ := mem_lowerAfter member
  exact inLowerCase_of_mem_lowerForms form

@[simp] theorem lowered_eq_nil {cs : List Char} : lowered cs = [] ↔ cs = [] := by
  constructor
  · intro h
    cases cs with
    | nil => rfl
    | cons c cs =>
      obtain ⟨front, parts, inhabited, -⟩ := lowerAfter_cons [] c cs
      rw [lowered, parts] at h
      exact absurd (List.append_eq_nil_iff.mp h).1 inhabited
  · rintro rfl
    rfl

/-- A sign that no run reaches is in the lower case of a text only if it is in the text. -/
theorem mem_of_mem_lowered {cs : List Char} {d : Char} (h : d ∈ lowered cs)
    (out : ∀ run ∈ lowerRuns, run.reaches d.toNat = false)
    (other : d ∉ ['i', '\u0307', finalSigma, smallSigma]) : d ∈ cs := by
  obtain ⟨c, member, form⟩ := mem_lowerAfter h
  exact eq_of_mem_lowerForms form out other ▸ member

theorem head?_lowerAfter {before cs : List Char} {d : Char}
    (h : (lowerAfter before cs).head? = some d) : ∃ c, cs.head? = some c ∧ d ∈ lowerForms c := by
  cases cs with
  | nil => simp [lowerAfter] at h
  | cons c cs =>
    obtain ⟨front, parts, inhabited, forms⟩ := lowerAfter_cons before c cs
    obtain ⟨e, es, rfl⟩ := List.exists_cons_of_ne_nil inhabited
    rw [parts, List.cons_append, List.head?_cons, Option.some.injEq] at h
    exact ⟨c, rfl, forms d (h ▸ List.mem_cons_self)⟩

private theorem getLast?_lowerAfter {before cs : List Char} {d : Char}
    (h : (lowerAfter before cs).getLast? = some d) :
    ∃ c, cs.getLast? = some c ∧ d ∈ lowerForms c := by
  induction cs generalizing before with
  | nil => simp [lowerAfter] at h
  | cons c cs ih =>
    obtain ⟨front, parts, -, forms⟩ := lowerAfter_cons before c cs
    rw [parts, List.getLast?_append] at h
    cases later : (lowerAfter (c :: before) cs).getLast? with
    | some e =>
      rw [later, Option.some_or, Option.some.injEq] at h
      obtain ⟨c', last, form⟩ := ih (later.trans (congrArg some h))
      exact ⟨c', by simp [List.getLast?_cons, last], form⟩
    | none =>
      -- What follows the first character leaves nothing, so there is nothing that follows it.
      rw [later, Option.none_or] at h
      cases cs with
      | nil => exact ⟨c, rfl, forms d (List.mem_of_getLast? h)⟩
      | cons c' cs =>
        obtain ⟨front', parts', inhabited, -⟩ := lowerAfter_cons (c :: before) c' cs
        rw [List.getLast?_eq_none_iff, parts'] at later
        exact absurd (List.append_eq_nil_iff.mp later).1 inhabited

/-- A trimmed text is trimmed in lower case as well. -/
theorem trimmed_lowered {cs : List Char} (h : trimmed cs = cs) :
    trimmed (lowered cs) = lowered cs := by
  obtain ⟨first, last⟩ := trimmed_eq_self_iff.mp h
  refine trimmed_eq_self_iff.mpr ⟨fun d found => ?_, fun d found => ?_⟩
  · obtain ⟨c, head, form⟩ := head?_lowerAfter found
    exact isBlank_of_mem_lowerForms form (first c head)
  · obtain ⟨c, ending, form⟩ := getLast?_lowerAfter found
    exact isBlank_of_mem_lowerForms form (last c ending)

/-- The capital letters of ASCII. -/
private def capitalLetters : List Char :=
  (List.range 26).map fun n => Char.ofNat ('A'.toNat + n)

private theorem toLower_eq_self {c : Char} (h : c ∉ capitalLetters) : c.toLower = c := by
  unfold Char.toLower
  split
  · rename_i capital
    have low : 'A'.toNat ≤ c.toNat := UInt32.le_iff_toNat_le.mp capital.1
    have high : c.toNat ≤ 'Z'.toNat := UInt32.le_iff_toNat_le.mp capital.2
    refine absurd (List.mem_map.mpr ⟨c.toNat - 'A'.toNat, ?_, ?_⟩) h
    · simp only [Char.reduceToNat, List.mem_range] at low high ⊢
      omega
    · rw [Nat.add_sub_cancel' low, Char.ofNat_toNat]
  · rfl

/-- What does not tell the capital letters of ASCII from the small ones does not see that they were
lowered. -/
private theorem apply_toLower {α : Type} [BEq α] [LawfulBEq α] (f : Char → α)
    (letters : (capitalLetters.all fun c => f c.toLower == f c) = true) (c : Char) :
    f c.toLower = f c := by
  by_cases capital : c ∈ capitalLetters
  · exact beq_iff_eq.mp (List.all_eq_true.mp letters c capital)
  · rw [toLower_eq_self capital]

theorem toLower_toLower (c : Char) : c.toLower.toLower = c.toLower :=
  apply_toLower Char.toLower (by decide) c

theorem isBlank_toLower (c : Char) : isBlank c.toLower = isBlank c :=
  apply_toLower isBlank (by decide) c

theorem lowerChar_toLower (c : Char) : lowerChar c.toLower = lowerChar c :=
  apply_toLower lowerChar (by decide) c

/-- The small letters of ASCII are in ASCII, and no others. -/
theorem toNat_toLower_lt_iff {c : Char} : c.toLower.toNat < 0x80 ↔ c.toNat < 0x80 := by
  have same := apply_toLower (fun c => decide (c.toNat < 0x80)) (by decide) c
  rwa [decide_eq_decide] at same

private theorem toLower_eq_iff {c d : Char}
    (h : (capitalLetters.all fun c => (c.toLower == d) == (c == d)) = true) :
    c.toLower = d ↔ c = d := by
  rw [← beq_iff_eq, apply_toLower (· == d) h c, beq_iff_eq]

theorem meetsCased_map_toLower (cs : List Char) :
    meetsCased (cs.map Char.toLower) = meetsCased cs := by
  induction cs with
  | nil => rfl
  | cons c cs ih =>
    have ignorable : caseIgnorable.contains c.toLower = caseIgnorable.contains c :=
      apply_toLower caseIgnorable.contains (by decide) c
    have casing : cased.contains c.toLower = cased.contains c :=
      apply_toLower cased.contains (by decide) c
    unfold meetsCased at ih ⊢
    rw [List.map_cons, List.dropWhile_cons, List.dropWhile_cons, ignorable]
    by_cases skipped : caseIgnorable.contains c = true
    · rw [if_pos skipped, if_pos skipped]
      exact ih
    · rw [if_neg skipped, if_neg skipped]
      exact casing

/-- Lower case does not see whether ASCII letters were lowered before. -/
theorem lowerAfter_map_toLower (before cs : List Char) :
    lowerAfter (before.map Char.toLower) (cs.map Char.toLower) = lowerAfter before cs := by
  -- The text before is lowered along, since it has a say in the form of a sigma.
  induction cs generalizing before with
  | nil => rfl
  | cons c cs ih =>
    have sigma : c.toLower = capitalSigma ↔ c = capitalSigma := toLower_eq_iff (by decide)
    rw [List.map_cons, lowerAfter, lowerAfter, meetsCased_map_toLower, meetsCased_map_toLower,
      lowerChar_toLower, ← List.map_cons, ih]
    simp only [sigma]

theorem joinBlanksFrom_map_toLower (afterBlank : Bool) (cs : List Char) :
    joinBlanksFrom afterBlank (cs.map Char.toLower) =
      (joinBlanksFrom afterBlank cs).map Char.toLower := by
  induction cs generalizing afterBlank with
  | nil => rfl
  | cons c cs ih =>
    rw [List.map_cons, joinBlanksFrom, joinBlanksFrom, isBlank_toLower]
    split
    · split
      · exact ih true
      · rw [List.map_cons, ih]
        rfl
    · rw [List.map_cons, ih]

theorem trimEnd_map_toLower (cs : List Char) :
    trimEnd (cs.map Char.toLower) = (trimEnd cs).map Char.toLower := by
  induction cs with
  | nil => rfl
  | cons c cs ih =>
    simp only [List.map_cons, trimEnd_cons, ih, isBlank_toLower, List.map_eq_nil_iff]
    split
    · rfl
    · rfl

theorem trimStart_map_toLower (cs : List Char) :
    trimStart (cs.map Char.toLower) = (trimStart cs).map Char.toLower := by
  have blank : isBlank ∘ Char.toLower = isBlank := funext isBlank_toLower
  rw [trimStart, List.dropWhile_map, blank, trimStart]

theorem toList_lowerAscii (s : String) : (lowerAscii s).toList = s.toList.map Char.toLower :=
  String.toList_ofList

theorem lower_lowerAscii (s : String) : lower (lowerAscii s) = lower s := by
  rw [lower, toList_lowerAscii, lowered, ← List.map_nil, lowerAfter_map_toLower]
  rfl

theorem lowerAscii_lowerAscii (s : String) : lowerAscii (lowerAscii s) = lowerAscii s := by
  rw [lowerAscii, toList_lowerAscii, List.map_map, lowerAscii]
  congr 2
  exact funext toLower_toLower

theorem normalizeSpaces_lowerAscii (s : String) :
    normalizeSpaces (lowerAscii s) = lowerAscii (normalizeSpaces s) := by
  rw [normalizeSpaces, toList_lowerAscii, spaced, trimmed, joinBlanksFrom_map_toLower,
    trimStart_map_toLower, trimEnd_map_toLower, lowerAscii, normalizeSpaces, String.toList_ofList]
  rfl

theorem fromKey_lowerAscii (s : String) : fromKey (lowerAscii s) = lowerAscii (fromKey s) := by
  rw [fromKey, fromKey, replaceChar, replaceChar, toList_lowerAscii, lowerAscii,
    String.toList_ofList, List.map_map, List.map_map]
  congr 2
  funext c
  have underscore : c.toLower = '_' ↔ c = '_' := toLower_eq_iff (by decide)
  simp only [Function.comp_apply, underscore]
  split
  · rfl
  · rfl

theorem eqIgnoringCase_lowerAscii (s t : String) :
    eqIgnoringCase s (lowerAscii t) = eqIgnoringCase s t := by
  rw [eqIgnoringCase, eqIgnoringCase, lowerAscii_lowerAscii]

end WikiQuery.Text

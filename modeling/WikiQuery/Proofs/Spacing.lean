import WikiQuery.Proofs.FirstLetter
import WikiQuery.Proofs.NamespacePrefix

/-!
The order in which a text is brought into one spelling. Its ends are trimmed, its runs of white space are
joined, its underscores are read as spaces and its letters are lowered; whichever is done first, the same
text comes out. Lowering is the hard one, since a capital sigma looks at the letters around it. It looks
past no white space and no underscore, and sees as little behind one space as behind many.
-/

set_option autoImplicit false

namespace WikiQuery.Text

variable {c d : Char} {cs before front : List Char} {f : Char → Char} {s : String}

theorem trimStart_joinBlanksFrom (afterBlank : Bool) (cs : List Char) :
    trimStart (joinBlanksFrom afterBlank cs) = joinBlanksFrom false (trimStart cs) := by
  induction cs generalizing afterBlank with
  | nil => rfl
  | cons c cs ih =>
    by_cases blank : isBlank c = true
    · rw [trimStart_cons, if_pos blank, ← ih true, joinBlanksFrom, if_pos blank]
      cases afterBlank with
      | true => rfl
      | false => rw [if_neg (by decide), trimStart_cons, if_pos isBlank_space]
    · rw [joinBlanksFrom, if_neg blank, trimStart_cons, if_neg blank, trimStart_cons, if_neg blank,
        joinBlanksFrom, if_neg blank]

theorem trimEnd_eq_nil_of_joinBlanksFrom {afterBlank : Bool} (h : joinBlanksFrom afterBlank cs = []) :
    trimEnd cs = [] := by
  induction cs generalizing afterBlank with
  | nil => rfl
  | cons c cs ih =>
    by_cases blank : isBlank c = true
    · cases afterBlank with
      | true =>
        rw [joinBlanksFrom, if_pos blank, if_pos rfl] at h
        rw [trimEnd_cons, if_pos ⟨ih h, blank⟩]
      | false => simp [joinBlanksFrom, blank] at h
    · simp [joinBlanksFrom, blank] at h

theorem trimEnd_joinBlanksFrom (afterBlank : Bool) (cs : List Char) :
    trimEnd (joinBlanksFrom afterBlank cs) = joinBlanksFrom afterBlank (trimEnd cs) := by
  induction cs generalizing afterBlank with
  | nil => rfl
  | cons c cs ih =>
    by_cases blank : isBlank c = true
    · by_cases last : trimEnd cs = []
      · have rest : trimEnd (joinBlanksFrom true cs) = [] := by rw [ih, last]; rfl
        rw [trimEnd_cons c, if_pos ⟨last, blank⟩, joinBlanksFrom, joinBlanksFrom, if_pos blank]
        cases afterBlank with
        | true => exact rest
        | false => rw [if_neg (by decide), trimEnd_cons, if_pos ⟨rest, isBlank_space⟩]
      · -- More than white space follows, so the run that begins here is not trimmed.
        have more : joinBlanksFrom true (trimEnd cs) ≠ [] := by
          intro nothing
          have empty := trimEnd_eq_nil_of_joinBlanksFrom nothing
          rw [trimEnd_trimEnd] at empty
          exact last empty
        rw [trimEnd_cons c, if_neg fun both => last both.1, joinBlanksFrom, if_pos blank,
          joinBlanksFrom, if_pos blank]
        cases afterBlank with
        | true => exact ih true
        | false =>
          rw [if_neg (by decide), if_neg (by decide), trimEnd_cons, ih,
            if_neg fun both => more both.1]
    · rw [joinBlanksFrom, if_neg blank, trimEnd_cons, ih, if_neg fun both => blank both.2,
        trimEnd_cons, if_neg fun both => blank both.2, joinBlanksFrom, if_neg blank]

/-- It is all the same whether a text is trimmed before its runs of white space are joined or after. -/
theorem spaced_eq_joinBlanksFrom (cs : List Char) : spaced cs = joinBlanksFrom false (trimmed cs) := by
  rw [spaced, trimmed, trimStart_joinBlanksFrom, trimEnd_joinBlanksFrom, trimmed]

theorem trimStart_map_trimStart (blank : ∀ c, isBlank c = true → isBlank (f c) = true)
    (cs : List Char) : trimStart ((trimStart cs).map f) = trimStart (cs.map f) := by
  induction cs with
  | nil => rfl
  | cons c cs ih =>
    rw [trimStart_cons]
    split
    · rename_i here
      rw [ih, List.map_cons, trimStart_cons, if_pos (blank c here)]
    · rfl

theorem trimEnd_map_trimEnd (blank : ∀ c, isBlank c = true → isBlank (f c) = true)
    (cs : List Char) : trimEnd ((trimEnd cs).map f) = trimEnd (cs.map f) := by
  induction cs with
  | nil => rfl
  | cons c cs ih =>
    rw [trimEnd_cons]
    split
    · rename_i both
      rw [both.1] at ih
      rw [List.map_cons, trimEnd_cons, if_pos ⟨ih.symm, blank c both.2⟩]
      rfl
    · rw [List.map_cons, List.map_cons, trimEnd_cons, trimEnd_cons, ih]

/-- What keeps white space white can be done before or after trimming, if the text is trimmed again. -/
theorem trimmed_map_trimmed (blank : ∀ c, isBlank c = true → isBlank (f c) = true)
    (cs : List Char) : trimmed ((trimmed cs).map f) = trimmed (cs.map f) := by
  unfold trimmed
  rw [← trimStart_trimEnd, trimEnd_map_trimEnd blank, trimStart_trimEnd,
    trimStart_map_trimStart blank]

/-- A character as it is read. -/
def readChar (c : Char) : Char :=
  if c = '_' then ' ' else c

theorem readChar_eq_space_iff : readChar c = ' ' ↔ c = '_' ∨ c = ' ' := by
  unfold readChar
  split <;> simp_all

theorem readChar_of_ne (other : c ≠ '_') : readChar c = c :=
  if_neg other

theorem keyChar_readChar (c : Char) : keyChar (readChar c) = keyChar c := by
  unfold readChar
  split
  · rename_i same
    rw [same]
    rfl
  · rfl

theorem map_keyChar_map_readChar (cs : List Char) : (cs.map readChar).map keyChar = cs.map keyChar := by
  rw [List.map_map]
  exact List.map_congr_left fun c _ => keyChar_readChar c

theorem underscore_not_mem_map_readChar (cs : List Char) : '_' ∉ cs.map readChar := by
  rw [List.mem_map]
  rintro ⟨c, -, image⟩
  by_cases same : c = '_'
  · rw [same] at image
    exact absurd image (by decide)
  · exact same (readChar_of_ne same ▸ image)

theorem toList_fromKey_map (s : String) : (fromKey s).toList = s.toList.map readChar :=
  toList_fromKey s

theorem spaced_fromKey_trim (s : String) :
    spaced ((trimmed s.toList).map readChar) = spaced (fromKey s).toList := by
  have blank : ∀ c, isBlank c = true → isBlank (readChar c) = true := by
    intro c here
    have other : c ≠ '_' := by
      rintro rfl
      exact absurd here (by decide)
    rwa [readChar_of_ne other]
  rw [spaced_eq_joinBlanksFrom, trimmed_map_trimmed blank, ← spaced_eq_joinBlanksFrom, toList_fromKey_map]

theorem mem_spaced_fromKey (member : c ∈ spaced (fromKey s).toList) :
    c = ' ' ∨ c ∈ s.toList := by
  rcases mem_joinBlanksFrom ((trimmed_sublist _).subset member) with space | ⟨inside, -⟩
  · exact .inl space
  · exact mem_fromKey inside

/-- A character that is no white space is still there when white space is joined and trimmed. -/
theorem mem_spaced_of_solid (solid : isBlank c = false) (member : c ∈ cs) : c ∈ spaced cs := by
  obtain ⟨front, back, rfl⟩ := List.append_of_mem member
  rw [spaced_append solid]
  exact List.mem_append_right _ List.mem_cons_self

theorem joinBlanksFrom_solid_append (solid : ∀ c ∈ front, isBlank c = false) (inhabited : front ≠ [])
    (afterBlank : Bool) (cs : List Char) :
    joinBlanksFrom afterBlank (front ++ cs) = front ++ joinBlanksFrom false cs := by
  induction front generalizing afterBlank with
  | nil => exact absurd rfl inhabited
  | cons c front ih =>
    have first : ¬isBlank c = true := Bool.eq_false_iff.mp (solid c List.mem_cons_self)
    rw [List.cons_append, joinBlanksFrom, if_neg first]
    cases front with
    | nil => rfl
    | cons d front =>
      rw [ih (fun e member => solid e (List.mem_cons_of_mem c member)) (List.cons_ne_nil d front)]
      rfl

theorem trimEnd_solid_append (solid : ∀ c ∈ front, isBlank c = false) (cs : List Char) :
    trimEnd (front ++ cs) = front ++ trimEnd cs := by
  induction front with
  | nil => rfl
  | cons c front ih =>
    have first : ¬isBlank c = true := Bool.eq_false_iff.mp (solid c List.mem_cons_self)
    rw [List.cons_append, trimEnd_cons, if_neg fun both => first both.2,
      ih fun d member => solid d (List.mem_cons_of_mem c member), List.cons_append]

/-- A character that has no case, and past which no sigma looks. -/
structure Caseless (c : Char) : Prop where
  inLowerCase : InLowerCase c
  unskipped : caseIgnorable.contains c = false
  uncased : cased.contains c = false

/-- What the tables of letters say of white space and of the underscore, all at once. -/
private theorem caseless_tables :
    (∀ code ∈ '_'.toNat :: blankCodes, InLowerCase (Char.ofNat code) ∧
      caseIgnorable.contains (Char.ofNat code) = false ∧ cased.contains (Char.ofNat code) = false) ∧
    (lowerRuns.all fun run => ['_'.toNat].all fun code =>
      code.blt run.image || (run.image + (run.last - run.first)).blt code) = true := by
  unfold InLowerCase
  decide +kernel

private theorem caseless_of_mem (member : c.toNat ∈ '_'.toNat :: blankCodes) : Caseless c := by
  obtain ⟨same, unskipped, uncased⟩ := caseless_tables.1 _ member
  rw [Char.ofNat_toNat] at same unskipped uncased
  exact ⟨same, unskipped, uncased⟩

theorem caseless_of_isBlank (blank : isBlank c = true) : Caseless c :=
  caseless_of_mem (List.mem_cons_of_mem _ (mem_blankCodes blank))

theorem caseless_underscore : Caseless '_' :=
  caseless_of_mem List.mem_cons_self

theorem caseless_space : Caseless ' ' :=
  caseless_of_isBlank isBlank_space

/-- No underscore comes of anything else by lowering. -/
theorem eq_underscore_of_mem_lowerForms (h : '_' ∈ lowerForms c) : c = '_' := by
  have out := CaseRun.reaches_eq_false_of_all caseless_tables.2 _ List.mem_cons_self
  exact (eq_of_mem_lowerForms h out (by decide)).symm

theorem Caseless.meetsCased_cons (h : Caseless c) (cs : List Char) : meetsCased (c :: cs) = false := by
  rw [Text.meetsCased_cons, h.unskipped, h.uncased, if_neg (by decide)]

theorem Caseless.lowerBetween_eq (h : Caseless c) (front back : Bool) :
    lowerBetween front back c = [c] := by
  rw [lowerBetween, if_neg h.inLowerCase.1, h.inLowerCase.2]

theorem Caseless.lowerAfter_cons (h : Caseless c) (before cs : List Char) :
    lowerAfter before (c :: cs) = c :: lowerAfter (c :: before) cs := by
  rw [lowerAfter_cons_eq, h.lowerBetween_eq, List.singleton_append]

theorem isBlank_of_mem_lowerBetween {front back : Bool} (solid : isBlank c = false) :
    ∀ d ∈ lowerBetween front back c, isBlank d = false := fun _ member =>
  isBlank_of_mem_lowerForms (mem_lowerForms_of_mem_lowerBetween member) solid

theorem meetsCased_joinBlanksFrom (cs : List Char) :
    meetsCased (joinBlanksFrom false cs) = meetsCased cs := by
  induction cs with
  | nil => rfl
  | cons c cs ih =>
    rw [joinBlanksFrom]
    split
    · rename_i blank
      rw [if_neg (by decide), caseless_space.meetsCased_cons,
        (caseless_of_isBlank blank).meetsCased_cons]
    · rw [meetsCased_cons, meetsCased_cons, ih]

theorem meetsCased_trimEnd (cs : List Char) : meetsCased (trimEnd cs) = meetsCased cs := by
  induction cs with
  | nil => rfl
  | cons c cs ih =>
    rw [trimEnd_cons]
    split
    · rename_i both
      rw [(caseless_of_isBlank both.2).meetsCased_cons]
      rfl
    · rw [meetsCased_cons, meetsCased_cons, ih]

/-- White space is joined before lowering as well as after. -/
theorem joinBlanksFrom_lowerAfter {afterBlank : Bool}
    (gap : afterBlank = true → meetsCased before = false) (cs : List Char) :
    joinBlanksFrom afterBlank (lowerAfter before cs) =
      lowerAfter before (joinBlanksFrom afterBlank cs) := by
  -- Behind white space, of which some is left out, there is nothing that a sigma sees.
  induction cs generalizing afterBlank before with
  | nil => rfl
  | cons c cs ih =>
    by_cases blank : isBlank c = true
    · have caseless := caseless_of_isBlank blank
      have unseen := caseless.meetsCased_cons before
      rw [caseless.lowerAfter_cons, joinBlanksFrom, if_pos blank, joinBlanksFrom, if_pos blank,
        ih fun _ => unseen]
      cases afterBlank with
      | true => exact lowerAfter_congr (unseen.trans (gap rfl).symm) _
      | false =>
        have space := caseless_space.meetsCased_cons before
        rw [if_neg (by decide), if_neg (by decide), caseless_space.lowerAfter_cons,
          lowerAfter_congr (unseen.trans space.symm)]
    · have solid : isBlank c = false := Bool.eq_false_iff.mpr blank
      rw [lowerAfter_cons_eq, joinBlanksFrom_solid_append (isBlank_of_mem_lowerBetween solid)
        (lowerBetween_ne_nil _ _ c), ih (by simp), joinBlanksFrom, if_neg blank, lowerAfter_cons_eq,
        meetsCased_joinBlanksFrom]

theorem trimStart_lowerAfter (unseen : meetsCased before = false) (cs : List Char) :
    trimStart (lowerAfter before cs) = lowerAfter before (trimStart cs) := by
  induction cs generalizing before with
  | nil => rfl
  | cons c cs ih =>
    by_cases blank : isBlank c = true
    · have caseless := caseless_of_isBlank blank
      have next := caseless.meetsCased_cons before
      rw [caseless.lowerAfter_cons, trimStart_cons, if_pos blank, trimStart_cons, if_pos blank,
        ih next, lowerAfter_congr (next.trans unseen.symm)]
    · rw [trimStart_cons, if_neg blank]
      refine trimStart_eq_self fun d first => ?_
      obtain ⟨e, head, form⟩ := head?_lowerAfter first
      obtain rfl := Option.some.inj head
      exact isBlank_of_mem_lowerForms form (Bool.eq_false_iff.mpr blank)

theorem trimEnd_lowerAfter (before cs : List Char) :
    trimEnd (lowerAfter before cs) = lowerAfter before (trimEnd cs) := by
  induction cs generalizing before with
  | nil => rfl
  | cons c cs ih =>
    by_cases blank : isBlank c = true
    · have caseless := caseless_of_isBlank blank
      rw [caseless.lowerAfter_cons, trimEnd_cons, trimEnd_cons, ih]
      by_cases last : trimEnd cs = []
      · rw [last, if_pos ⟨rfl, blank⟩, if_pos ⟨rfl, blank⟩]
        rfl
      · have more : lowerAfter (c :: before) (trimEnd cs) ≠ [] := by
          have length := length_le_lowerAfter (c :: before) (trimEnd cs)
          exact List.ne_nil_of_length_pos ((List.length_pos_iff.mpr last).trans_le length)
        rw [if_neg fun both => more both.1, if_neg fun both => last both.1,
          caseless.lowerAfter_cons]
    · have solid : isBlank c = false := Bool.eq_false_iff.mpr blank
      rw [lowerAfter_cons_eq, trimEnd_solid_append (isBlank_of_mem_lowerBetween solid), ih,
        trimEnd_cons, if_neg fun both => blank both.2, lowerAfter_cons_eq, meetsCased_trimEnd]

/-- White space is joined and trimmed before lowering as well as after. -/
theorem spaced_lowered (cs : List Char) : spaced (lowered cs) = lowered (spaced cs) := by
  rw [spaced, lowered, joinBlanksFrom_lowerAfter (by simp), trimmed, trimStart_lowerAfter rfl,
    trimEnd_lowerAfter]
  rfl

theorem meetsCased_map_readChar (cs : List Char) : meetsCased (cs.map readChar) = meetsCased cs := by
  induction cs with
  | nil => rfl
  | cons c cs ih =>
    by_cases same : c = '_'
    · obtain rfl := same
      rw [caseless_underscore.meetsCased_cons]
      exact caseless_space.meetsCased_cons _
    · rw [List.map_cons, readChar_of_ne same, meetsCased_cons, meetsCased_cons, ih]

theorem lowerBetween_readChar (front back : Bool) (c : Char) :
    lowerBetween front back (readChar c) = (lowerBetween front back c).map readChar := by
  by_cases same : c = '_'
  · obtain rfl := same
    rw [caseless_underscore.lowerBetween_eq]
    exact caseless_space.lowerBetween_eq front back
  · rw [readChar_of_ne same]
    refine ((List.map_congr_left fun d member => readChar_of_ne ?_).trans (List.map_id _)).symm
    rintro rfl
    exact same (eq_underscore_of_mem_lowerForms (mem_lowerForms_of_mem_lowerBetween member))

/-- Underscores are read as spaces before lowering as well as after. -/
theorem lowerAfter_map_readChar (before cs : List Char) :
    lowerAfter (before.map readChar) (cs.map readChar) = (lowerAfter before cs).map readChar := by
  induction cs generalizing before with
  | nil => rfl
  | cons c cs ih =>
    rw [List.map_cons, lowerAfter_cons_eq, lowerAfter_cons_eq, meetsCased_map_readChar,
      meetsCased_map_readChar, lowerBetween_readChar, ← List.map_cons, ih, List.map_append]

theorem toList_lower (s : String) : (lower s).toList = lowered s.toList :=
  String.toList_ofList

/-- A name is lowered before it is brought into spaces as well as after. -/
theorem normalizeSpaces_fromKey_lower (s : String) :
    normalizeSpaces (fromKey (lower s)) = lower (normalizeSpaces (fromKey s)) := by
  have read : (fromKey (lower s)).toList = lowered (fromKey s).toList := by
    rw [toList_fromKey_map, toList_fromKey_map, toList_lower]
    exact (lowerAfter_map_readChar [] s.toList).symm
  rw [← String.toList_inj, toList_normalizeSpaces, read, spaced_lowered, toList_lower,
    toList_normalizeSpaces]

end WikiQuery.Text

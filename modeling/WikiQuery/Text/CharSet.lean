/-!
Sets of characters given as ranges of code points, the form in which character properties are
tabulated. The main statement says that a look-up, which stops at the first range that does not lie
below the character, finds every range that holds it.
-/

set_option autoImplicit false

namespace WikiQuery.Text

/-- Whether closed ranges of code points hold something each and stand in ascending order, apart from
one another. -/
def ascend : List (Nat × Nat) → Bool
  | [] => true
  | [range] => decide (range.1 ≤ range.2)
  | range :: next :: ranges =>
    decide (range.1 ≤ range.2 ∧ range.2 < next.1) && ascend (next :: ranges)

/-- A set of characters: the closed ranges of code points that it is made of. -/
structure CharSet where
  ranges : List (Nat × Nat)
  ranges_ascend : ascend ranges = true := by decide +kernel

/-- Whether a character lies in one of the ranges. -/
def CharSet.contains (s : CharSet) (c : Char) : Bool :=
  match s.ranges.find? fun range => decide (c.toNat ≤ range.2) with
  | some range => decide (range.1 ≤ c.toNat)
  | none => false

theorem ascend_tail {range : Nat × Nat} {ranges : List (Nat × Nat)}
    (h : ascend (range :: ranges) = true) : ascend ranges = true := by
  cases ranges with
  | nil => rfl
  | cons next ranges =>
    simp only [ascend, Bool.and_eq_true] at h
    exact h.2

theorem lt_of_ascend {range other : Nat × Nat} {ranges : List (Nat × Nat)}
    (h : ascend (range :: ranges) = true) (hmem : other ∈ ranges) : range.2 < other.1 := by
  induction ranges generalizing range with
  | nil => simp at hmem
  | cons next ranges ih =>
    have hnext := ascend_tail h
    simp only [ascend, Bool.and_eq_true, decide_eq_true_eq] at h
    rcases List.mem_cons.1 hmem with rfl | hmem
    · exact h.1.2
    · have hle : next.1 ≤ next.2 := by
        cases ranges with
        | nil => simpa [ascend] using hnext
        | cons third ranges =>
          simp only [ascend, Bool.and_eq_true, decide_eq_true_eq] at hnext
          exact hnext.1.1
      exact Nat.lt_trans (Nat.lt_of_lt_of_le h.1.2 hle) (ih hnext hmem)

theorem find?_of_ascend {code : Nat} {range : Nat × Nat} {ranges : List (Nat × Nat)}
    (h : ascend ranges = true) (hmem : range ∈ ranges) (hlo : range.1 ≤ code)
    (hhi : code ≤ range.2) :
    ranges.find? (fun range => decide (code ≤ range.2)) = some range := by
  induction ranges with
  | nil => simp at hmem
  | cons next ranges ih =>
    rcases List.mem_cons.1 hmem with rfl | hmem
    · rw [List.find?_cons_of_pos (by simpa using hhi)]
    · have hlt := lt_of_ascend h hmem
      rw [List.find?_cons_of_neg (by simp; omega)]
      exact ih (ascend_tail h) hmem

theorem CharSet.contains_iff {s : CharSet} {c : Char} :
    s.contains c = true ↔ ∃ range ∈ s.ranges, range.1 ≤ c.toNat ∧ c.toNat ≤ range.2 := by
  unfold CharSet.contains
  constructor
  · intro h
    split at h
    · next range hfind =>
      refine ⟨range, List.mem_of_find?_eq_some hfind, by simpa using h, ?_⟩
      simpa using List.find?_some hfind
    · simp at h
  · rintro ⟨range, hmem, hlo, hhi⟩
    rw [find?_of_ascend s.ranges_ascend hmem hlo hhi]
    simpa using hlo

end WikiQuery.Text

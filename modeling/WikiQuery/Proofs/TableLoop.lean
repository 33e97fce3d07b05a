import Mathlib.Data.List.Induction
import WikiQuery.Procedure.Section

/-!
What the loops of a table come to. The cells of its text, gone through one after the other, give the
opening and the row. The parts that are shown, gone through one after the other, take the first places of
the separators, so that those of all parts stand in front and what stood behind them stays.
-/

set_option autoImplicit false

namespace WikiQuery

namespace Reading.Table

variable {row label : String} {labels new : List String}

theorem length_partSeparators (row : String) (labels : List String) :
    (partSeparators row labels).length = 2 * labels.length := by
  cases labels with
  | nil => rfl
  | cons label labels =>
    have cells : (labels.flatMap fun _ => [cellOpening, ""]).length = labels.length * 2 := by
      rw [List.length_flatMap, List.map_const', List.sum_replicate_nat]
      rfl
    rw [partSeparators, List.length_cons, List.length_cons, cells, List.length_cons]
    omega

theorem length_multiSeparators (row : String) (labels : List String) :
    (multiSeparators row labels).length = labels.length := by
  cases labels with
  | nil => rfl
  | cons label labels => simp only [multiSeparators, List.length_cons, List.length_map]

theorem partSeparators_append_single (inhabited : labels ≠ []) (row label : String) :
    partSeparators row (labels ++ [label]) = partSeparators row labels ++ [cellOpening, ""] := by
  cases labels with
  | nil => exact absurd rfl inhabited
  | cons first labels => simp [partSeparators]

theorem multiSeparators_append_single (inhabited : labels ≠ []) (row label : String) :
    multiSeparators row (labels ++ [label]) = multiSeparators row labels ++ [between label] := by
  cases labels with
  | nil => exact absurd rfl inhabited
  | cons first labels => simp [multiSeparators]

end Reading.Table

namespace Procedure.Table

open Reading.Table (between cellOpening firstHeader headers multiSeparators overwrite partSeparators)

variable {row label cell : String} {labels new old cells : List String}

/-- The place behind those that are taken is taken next, whether or not a text stands there. -/
theorem setAt_overwrite (new old : List String) (text : String) :
    setAt (overwrite new old) new.length text = overwrite (new ++ [text]) old := by
  unfold setAt overwrite
  cases rest : old.drop new.length with
  | nil =>
    have short : old.length ≤ new.length := List.drop_eq_nil_iff.mp rest
    have behind : old.drop (new ++ [text]).length = [] :=
      List.drop_eq_nil_of_le (by rw [List.length_append]; omega)
    rw [behind]
    simp
  | cons first rest' =>
    have behind : old.drop (new ++ [text]).length = rest' := by
      rw [List.length_append, List.length_singleton, ← List.drop_drop, rest]
      rfl
    rw [behind]
    simp

theorem setAt_overwrite_of_length {place : Nat} (taken : new.length = place) (old : List String)
    (text : String) : setAt (overwrite new old) place text = overwrite (new ++ [text]) old := by
  rw [← taken, setAt_overwrite]

/-- The separators of the parts so far, laid over those that are there. -/
def Separators.laidOver (row : String) (labels : List String) (s : Separators) : Separators where
  parts := overwrite (partSeparators row labels) s.parts
  several := overwrite (multiSeparators row labels) s.several

/-- One more part takes the places behind those of the parts before it. -/
theorem Separators.add_laidOver (row : String) (labels : List String) (label : String)
    (s : Separators) :
    (s.laidOver row labels).add row labels.length label = s.laidOver row (labels ++ [label]) := by
  by_cases none : labels = []
  · subst none
    have first (old : List String) : setAt (overwrite [] old) 0 row = overwrite [row] old :=
      setAt_overwrite [] old row
    have second : setAt (overwrite [row] s.parts) 1 "" = overwrite [row, ""] s.parts :=
      setAt_overwrite [row] s.parts ""
    exact congrArg₂ Separators.mk ((congrArg (setAt · 1 "") (first s.parts)).trans second)
      (first s.several)
  · have later : labels.length ≠ 0 := fun h => none (List.length_eq_zero_iff.mp h)
    have count := Reading.Table.length_partSeparators row labels
    have count' : (partSeparators row labels ++ [cellOpening]).length = 2 * labels.length + 1 := by
      rw [List.length_append, count, List.length_singleton]
    rw [add, if_neg later, laidOver, laidOver, setAt_overwrite_of_length count,
      setAt_overwrite_of_length count', List.append_assoc,
      setAt_overwrite_of_length (Reading.Table.length_multiSeparators row labels),
      Reading.Table.partSeparators_append_single none,
      Reading.Table.multiSeparators_append_single none]
    rfl

theorem Separators.lay_append_single (row : String) (labels : List String) (label : String)
    (s : Separators) :
    s.lay row (labels ++ [label]) = (s.lay row labels).add row labels.length label := by
  simp only [lay, List.zipIdx_append, List.foldl_append, Nat.zero_add, List.zipIdx_singleton,
    List.foldl_cons, List.foldl_nil]

/-- The loop over the parts lays the separators of all of them over those that are there. -/
theorem Separators.lay_eq (row : String) (labels : List String) (s : Separators) :
    s.lay row labels = s.laidOver row labels := by
  induction labels using List.reverseRecOn with
  | nil => rfl
  | append_singleton labels label ih => rw [lay_append_single, ih, add_laidOver]

/-- A cell behind the first header is a header as it stands. -/
private theorem Head.foldl_add_later (cells : List String) (place : Nat) (head : Head) :
    (cells.zipIdx (place + 2)).foldl (fun head cell => head.add cell.2 cell.1) head =
      { head with opening := head.opening ++ String.join (cells.map ("\n!" ++ ·)) } := by
  induction cells generalizing place head with
  | nil => simp
  | cons cell cells ih =>
    have one : head.add (place + 2) cell = { head with opening := head.opening ++ "\n!" ++ cell } := by
      simp [add]
    rw [List.zipIdx_cons, List.foldl_cons, one, ih (place + 1)]
    simp [String.append_assoc]

/-- The loop over the cells gives the opening with all headers, and does away with the cell that links to
the page where the first header is a dash. -/
theorem Head.ofCells_cons (tableClass : String) (cells : List String) :
    ofCells (tableClass :: cells) =
      { opening := Reading.Table.opening tableClass cells
        link := if cells.head? = some "-" then "" else Reading.Table.linkCell } := by
  cases cells with
  | nil => simp [ofCells, add, Reading.Table.opening, headers]
  | cons first cells =>
    rw [ofCells, List.zipIdx_cons, List.zipIdx_cons, List.foldl_cons, List.foldl_cons,
      foldl_add_later cells 0]
    by_cases dash : first = "-"
    · simp [add, Reading.Table.opening, headers, firstHeader, dash]
    · simp [add, Reading.Table.opening, headers, firstHeader, dash, String.append_assoc]

end Procedure.Table

end WikiQuery

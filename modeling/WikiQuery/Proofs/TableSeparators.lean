import WikiQuery.Proofs.Performance
import WikiQuery.Proofs.TableLayout

/-!
The separators that a table lays over those that are there. It takes the places that belong to the parts
that are shown, as many as there are of them, and leaves all places behind; without such parts it leaves
all of them. Its opening has a header for each cell behind the class.
-/

set_option autoImplicit false

namespace WikiQuery

namespace Reading.Table

variable {row label : String} {labels old new cells : List String} {i : Nat}

theorem length_overwrite (new old : List String) :
    (overwrite new old).length = max old.length new.length := by
  rw [overwrite, List.length_append, List.length_drop]
  omega

theorem getElem?_overwrite_of_lt (bound : i < new.length) (old : List String) :
    (overwrite new old)[i]? = new[i]? :=
  List.getElem?_append_left bound

theorem getElem?_overwrite_of_le (behind : new.length ≤ i) (old : List String) :
    (overwrite new old)[i]? = old[i]? := by
  rw [overwrite, List.getElem?_append_right behind, List.getElem?_drop,
    Nat.add_sub_cancel' behind]

/-- Separators before and behind each of the parts, laid over those that are there: the row opens before
the first part, a cell before any other one, and nothing stands behind them. -/
structure PartsOver (row : String) (count : Nat) (old parts : List String) : Prop where
  length : parts.length = max old.length (2 * count)
  first : parts[0]? = some row
  before : ∀ i, 0 < i → i < count → parts[2 * i]? = some "\n|"
  behind : ∀ i, i < count → parts[2 * i + 1]? = some ""
  kept : ∀ i, 2 * count ≤ i → parts[i]? = old[i]?

/-- Separators between several parts of one name, laid over those that are there: the row opens in the first
place, and a rule or a break stands in that of any other name. -/
structure SeveralOver (row : String) (labels old several : List String) : Prop where
  length : several.length = max old.length labels.length
  first : several[0]? = some row
  between : ∀ i label, 0 < i → labels[i]? = some label → several[i]? =
    some (if label.toList.head? = some '#' then "\n----\n" else "<br/>\n")
  kept : ∀ i, labels.length ≤ i → several[i]? = old[i]?

theorem partsOver_overwrite (inhabited : labels ≠ []) (row : String) (old : List String) :
    PartsOver row labels.length old (overwrite (partSeparators row labels) old) := by
  have length := length_partSeparators row labels
  have count := List.length_pos_of_ne_nil inhabited
  refine ⟨?_, ?_, fun i positive bound => ?_, fun i bound => ?_, fun i behind => ?_⟩
  · rw [length_overwrite, length]
  · rw [getElem?_overwrite_of_lt (by omega), partSeparators_zero inhabited]
  · rw [getElem?_overwrite_of_lt (by omega), partSeparators_even positive bound, cellOpening]
  · rw [getElem?_overwrite_of_lt (by omega), partSeparators_odd bound]
  · exact getElem?_overwrite_of_le (length.trans_le behind) old

example : overwrite (partSeparators "row" ["Intro", "#Body"]) ["a", "b", "c", "d", "e"] =
    ["row", "", "\n|", "", "e"] := by decide

theorem severalOver_overwrite (inhabited : labels ≠ []) (row : String) (old : List String) :
    SeveralOver row labels old (overwrite (multiSeparators row labels) old) := by
  have length := length_multiSeparators row labels
  have count := List.length_pos_of_ne_nil inhabited
  refine ⟨?_, ?_, fun i label positive known => ?_, fun i behind => ?_⟩
  · rw [length_overwrite, length]
  · rw [getElem?_overwrite_of_lt (by omega), multiSeparators_zero inhabited]
  · have bound := (List.getElem?_eq_some_iff.mp known).1
    rw [getElem?_overwrite_of_lt (by omega), multiSeparators_of_pos positive known, between]
  · exact getElem?_overwrite_of_le (length.trans_le behind) old

/-- The line of a header, for the cell in a place behind the class: a dash in the first place calls for none,
and no text in the first place for that of the link. -/
def headerLine (place : Nat) (cell : String) : String :=
  if place = 0 ∧ cell = "-" then ""
  else "\n!" ++ if place = 0 ∧ cell = "" then "Article" else cell

theorem headerLine_succ (place : Nat) : headerLine (place + 1) = ("\n!" ++ ·) := by
  funext cell
  simp [headerLine]

theorem opening_eq (tableClass : String) (cells : List String) :
    opening tableClass cells = "\x7b|" ++
      (if tableClass = "" then "class=wikitable" else tableClass) ++
        String.join (cells.mapIdx headerLine) := by
  have lines : String.join ((headers cells).map ("\n!" ++ ·)) =
      String.join (cells.mapIdx headerLine) := by
    cases cells with
    | nil => rfl
    | cons cell cells =>
      -- Only the first cell can be a dash or take the title of the link; the others are as they stand.
      have later : cells.mapIdx (fun i => headerLine (i + 1)) = cells.map ("\n!" ++ ·) :=
        List.ext_getElem? fun i => by simp [headerLine_succ]
      rw [List.mapIdx_cons, later, headers, firstHeader]
      by_cases dash : cell = "-"
      · simp [headerLine, dash]
      · simp [headerLine, dash]
  rw [opening, lines]
  simp [defaultClass]

end Reading.Table

private theorem Reading.nodup_table {spec : Specification} {text : String} {change : Change}
    (taken : Reading.table spec text = some change) : (change.writes.map (·.1)).Nodup := by
  obtain rfl := Option.some.inj taken
  rw [List.map_append, List.map_append]
  split <;> simp

namespace Procedure

open Reading.Table (PartsOver SeveralOver)

/-- A table is always taken. Its steps lay its separators over those of the parts that are shown, and write an
opening with the class and the headers of its cells. -/
theorem table_separators (s : Session) (text : String) :
    ∃ after first rest, (table text).run s = (true, after) ∧ Text.split ',' text = first :: rest ∧
      let labels := (s.spec.list? "seclabels").getD []
      let row := "\n|-\n|" ++ if rest.head? = some "-" then "" else "[[%PAGE%|%TITLE%]]\n|"
      let opening := "\x7b|" ++ (if first = "" then "class=wikitable" else first) ++
        String.join (rest.mapIdx Reading.Table.headerLine)
      (labels = [] → ∀ key ∈ ["secseparators", "multisecseparators"],
        after.spec.value? key = s.spec.value? key) ∧
      (labels ≠ [] → ∃ parts several, after.spec.value? "secseparators" = some (.list parts) ∧
        after.spec.value? "multisecseparators" = some (.list several) ∧
        PartsOver row labels.length ((s.spec.list? "secseparators").getD []) parts ∧
        SeveralOver row labels ((s.spec.list? "multisecseparators").getD []) several) ∧
      after.spec.value? "listseparators" = some (.list [opening, "", "", "\n|\x7d"]) := by
  obtain ⟨change, read⟩ : ∃ change, Reading.table s.spec text = some change := ⟨_, rfl⟩
  obtain ⟨first, rest, cells⟩ := List.exists_cons_of_ne_nil (Text.split_ne_nil ',' text)
  have run := performs_table text s
  simp only [read] at run
  -- No key is written twice, so each value that is written stays.
  have distinct := Reading.nodup_table read
  refine ⟨s.apply change, first, rest, run, cells, ?_⟩
  obtain rfl := Option.some.inj read
  intro labels row opening
  refine ⟨fun empty key member => ?_, fun inhabited => ?_, ?_⟩
  · refine Specification.value?_write_of_forall_ne fun w written => ?_
    have unshown : ((s.spec.list? "seclabels").getD []).isEmpty = true :=
      List.isEmpty_iff.mpr empty
    simp only [unshown, if_true, List.append_nil, List.mem_append, List.mem_cons,
      List.not_mem_nil, or_false] at written member
    rcases written with (rfl | rfl | rfl | rfl) | rfl <;> rcases member with rfl | rfl <;> simp
  · have shown : ((s.spec.list? "seclabels").getD []).isEmpty = false :=
      List.isEmpty_eq_false_iff.mpr inhabited
    have same : row = Reading.Table.row (Text.split ',' text).tail := by
      rw [cells]
      rfl
    refine ⟨_, _, s.spec.value?_write_of_mem distinct ?_, s.spec.value?_write_of_mem distinct ?_,
      Reading.Table.partsOver_overwrite inhabited row _,
      Reading.Table.severalOver_overwrite inhabited row _⟩
    · simp [shown, same, labels]
    · simp [shown, same, labels]
  · refine s.spec.value?_write_of_mem distinct ?_
    simp [cells, opening, Reading.Table.opening_eq]

end Procedure

end WikiQuery

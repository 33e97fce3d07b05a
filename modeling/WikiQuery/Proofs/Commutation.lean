import Mathlib.Data.List.Lattice
import WikiQuery.Proofs.Step

/-!
Pairs touch each other only through the footprints of their parameters. Beyond its footprint a pair
changes no value, what it does there depends on nothing else, and two pairs whose footprints have no
key in common can be read in either order.
-/

set_option autoImplicit false

namespace WikiQuery.Engine

variable {e : Engine} {s t : Session} {name other text value key : String}

/-- The keys that a pair of a given name reads or writes; none if there is no such parameter. -/
def footprint (e : Engine) (name : String) : List String :=
  match e.registry.find? name with
  | some p => p.footprint
  | none => []

theorem footprint_of_lookup {p : Parameter} (h : e.lookup name = .ok p) :
    e.footprint name = p.footprint := by
  simp only [footprint, (lookup_eq_ok_iff.mp h).2.1]

theorem exists_of_mem_footprint (touched : key ∈ e.footprint name) :
    ∃ p ∈ e.registry.parameters, p.name = name ∧ key ∈ p.footprint := by
  unfold footprint at touched
  split at touched
  · rename_i p known
    exact ⟨p, Registry.mem_of_find? known, Registry.name_of_find? known, touched⟩
  · cases touched

/-- A pair changes no value beyond its footprint. -/
theorem value?_process_of_not_mem (h : key ∉ e.footprint name) :
    (e.process s name text).1.spec.value? key = s.spec.value? key := by
  cases found : e.lookup name with
  | error refusal => rw [process_of_lookup_error found]
  | ok p =>
    rw [footprint_of_lookup found] at h
    cases taken : Reading.change? e.settings e.host p s.spec text with
    | none =>
      rw [process_of_refused found taken]
      rfl
    | some change =>
      rw [process_of_accepted found taken]
      have elsewhere : ∀ w ∈ change.writes, w.1 ≠ key := by
        rintro w member rfl
        exact h ((Reading.writes_change? change taken).writes w member)
      exact Specification.value?_write_of_forall_ne elsewhere

theorem verbosity_process_of_not_mem (h : "debug" ∉ e.footprint name) :
    (e.process s name text).1.verbosity = s.verbosity := by
  cases found : e.lookup name with
  | error refusal => rw [process_of_lookup_error found]
  | ok p =>
    rw [footprint_of_lookup found] at h
    cases taken : Reading.change? e.settings e.host p s.spec text with
    | none => rw [process_of_refused found taken]
    | some change =>
      rw [process_of_accepted found taken]
      have quiet : change.verbosity = none := by
        by_contra loud
        exact h ((Reading.writes_change? change taken).verbosity loud)
      simp only [Session.verbosity_withVerbosity, quiet, Option.none_or]

/-- What a parameter makes of a text is the same for queries that have the same values on its
footprint. -/
theorem change?_congr_of_lookup (text : String) {p : Parameter} (found : e.lookup name = .ok p)
    (h : ∀ key ∈ e.footprint name, s.spec.value? key = t.spec.value? key) :
    Reading.change? e.settings e.host p s.spec text =
      Reading.change? e.settings e.host p t.spec text := by
  rw [footprint_of_lookup found] at h
  exact Reading.change?_congr e.settings e.host text h

theorem answer_congr (h : ∀ key ∈ e.footprint name, s.spec.value? key = t.spec.value? key) :
    (e.process s name text).2 = (e.process t name text).2 := by
  cases found : e.lookup name with
  | error refusal => rw [process_of_lookup_error found, process_of_lookup_error found]
  | ok p => rw [answer_process found, answer_process found, change?_congr_of_lookup text found h]

theorem selectionCriteriaFound_congr
    (h : ∀ key ∈ e.footprint name, s.spec.value? key = t.spec.value? key)
    (same : s.spec.selectionCriteriaFound = t.spec.selectionCriteriaFound) :
    (e.process s name text).1.spec.selectionCriteriaFound =
      (e.process t name text).1.spec.selectionCriteriaFound := by
  cases found : e.lookup name with
  | error refusal => rw [process_of_lookup_error found, process_of_lookup_error found, same]
  | ok p =>
    rw [selectionCriteriaFound_process found, selectionCriteriaFound_process found,
      change?_congr_of_lookup text found h, same]

theorem openReferencesConflict_congr
    (h : ∀ key ∈ e.footprint name, s.spec.value? key = t.spec.value? key)
    (same : s.spec.openReferencesConflict = t.spec.openReferencesConflict) :
    (e.process s name text).1.spec.openReferencesConflict =
      (e.process t name text).1.spec.openReferencesConflict := by
  cases found : e.lookup name with
  | error refusal => rw [process_of_lookup_error found, process_of_lookup_error found, same]
  | ok p =>
    rw [openReferencesConflict_process found, openReferencesConflict_process found,
      change?_congr_of_lookup text found h, same]

theorem verbosity_congr
    (h : ∀ key ∈ e.footprint name, s.spec.value? key = t.spec.value? key)
    (same : s.verbosity = t.verbosity) :
    (e.process s name text).1.verbosity = (e.process t name text).1.verbosity := by
  cases found : e.lookup name with
  | error refusal => rw [process_of_lookup_error found, process_of_lookup_error found, same]
  | ok p =>
    rw [verbosity_process found, verbosity_process found, change?_congr_of_lookup text found h,
      same]

/-- Queries with the same values on the footprint of a pair have the same values there after it. -/
theorem value?_process_congr
    (h : ∀ key ∈ e.footprint name, s.spec.value? key = t.spec.value? key)
    (member : key ∈ e.footprint name) :
    (e.process s name text).1.spec.value? key = (e.process t name text).1.spec.value? key := by
  have here := h key member
  cases found : e.lookup name with
  | error refusal => rw [process_of_lookup_error found, process_of_lookup_error found, here]
  | ok p =>
    have same := change?_congr_of_lookup text found h
    cases taken : Reading.change? e.settings e.host p t.spec text with
    | none =>
      rw [process_of_refused found taken, process_of_refused found (same.trans taken)]
      exact here
    | some change =>
      rw [process_of_accepted found taken, process_of_accepted found (same.trans taken)]
      exact Specification.value?_write_congr change.writes here

private theorem value?_process_comm (s : Session) (text value key : String)
    (apart : (e.footprint name).Disjoint (e.footprint other)) :
    (e.process (e.process s name text).1 other value).1.spec.value? key =
      (e.process (e.process s other value).1 name text).1.spec.value? key := by
  -- At most one of the pairs touches the key, and it finds its footprint as it was at the start.
  by_cases here : key ∈ e.footprint name
  · have there : key ∉ e.footprint other := fun member => apart here member
    rw [value?_process_of_not_mem there]
    refine value?_process_congr (fun k member => ?_) here
    exact (value?_process_of_not_mem fun member' => apart member member').symm
  · rw [value?_process_of_not_mem here]
    by_cases there : key ∈ e.footprint other
    · refine value?_process_congr (fun k member => ?_) there
      exact value?_process_of_not_mem fun member' => apart member' member
    · rw [value?_process_of_not_mem there, value?_process_of_not_mem there,
        value?_process_of_not_mem here]

/-- Only one of two pairs that touch nothing in common can call for a level of reports. -/
private theorem verbosity_comm {p q : Parameter} {one two : Option Change} {level : Option Nat}
    (apart : p.footprint.Disjoint q.footprint) (h : Reading.Writes p.footprint one)
    (h' : Reading.Writes q.footprint two) :
    (two.bind (·.verbosity)).or ((one.bind (·.verbosity)).or level) =
      (one.bind (·.verbosity)).or ((two.bind (·.verbosity)).or level) := by
  cases one with
  | none => rfl
  | some change =>
    cases two with
    | none => rfl
    | some change' =>
      by_cases quiet : change.verbosity = none
      · simp [quiet]
      · have quiet' : change'.verbosity = none := by
          by_contra loud
          exact apart ((h change rfl).verbosity quiet) ((h' change' rfl).verbosity loud)
        simp [quiet']

/-- Pairs that touch nothing in common can be read in either order. -/
theorem process_comm (apart : (e.footprint name).Disjoint (e.footprint other)) :
    (e.process (e.process s name text).1 other value).1 =
      (e.process (e.process s other value).1 name text).1 := by
  cases found : e.lookup name with
  | error refusal => rw [process_of_lookup_error found, process_of_lookup_error found]
  | ok p =>
    cases found' : e.lookup other with
    | error refusal => rw [process_of_lookup_error found', process_of_lookup_error found']
    | ok q =>
      have first : Reading.change? e.settings e.host p (e.process s other value).1.spec text =
          Reading.change? e.settings e.host p s.spec text :=
        change?_congr_of_lookup text found fun key member =>
          value?_process_of_not_mem fun member' => apart member member'
      have second : Reading.change? e.settings e.host q (e.process s name text).1.spec value =
          Reading.change? e.settings e.host q s.spec value :=
        change?_congr_of_lookup value found' fun key member =>
          value?_process_of_not_mem fun member' => apart member' member
      have values := fun key => value?_process_comm s text value key apart
      refine Session.ext (Specification.eq_of_value? values ?_ ?_ ?_) ?_
      · simp only [selectionCriteriaFound_process found, selectionCriteriaFound_process found',
          first, second, Bool.or_right_comm]
      · simp only [openReferencesConflict_process found, openReferencesConflict_process found',
          first, second, Bool.or_right_comm]
      · simp only [processed_process found, processed_process found']
        exact Std.ExtTreeSet.ext_mem fun given => by
          simp only [Std.ExtTreeSet.mem_insert, or_left_comm]
      · simp only [verbosity_process found, verbosity_process found', first, second]
        rw [footprint_of_lookup found, footprint_of_lookup found'] at apart
        exact verbosity_comm apart Reading.writes_change? Reading.writes_change?

/-- Parameters interact through their footprints only: a pair changes nothing beyond its footprint,
what it does depends on nothing but the values there, and it can change places with any pair whose
footprint has no key in common with its own. The level of reports goes with the key `debug`. -/
theorem process_footprint (e : Engine) (name text : String) :
    (∀ s, (∀ key, key ∉ e.footprint name →
        (e.process s name text).1.spec.value? key = s.spec.value? key) ∧
      ("debug" ∉ e.footprint name → (e.process s name text).1.verbosity = s.verbosity)) ∧
    (∀ s t, (∀ key ∈ e.footprint name, s.spec.value? key = t.spec.value? key) →
      (e.process s name text).2 = (e.process t name text).2 ∧
      (∀ key ∈ e.footprint name, (e.process s name text).1.spec.value? key =
        (e.process t name text).1.spec.value? key) ∧
      (s.spec.selectionCriteriaFound = t.spec.selectionCriteriaFound →
        (e.process s name text).1.spec.selectionCriteriaFound =
          (e.process t name text).1.spec.selectionCriteriaFound) ∧
      (s.spec.openReferencesConflict = t.spec.openReferencesConflict →
        (e.process s name text).1.spec.openReferencesConflict =
          (e.process t name text).1.spec.openReferencesConflict) ∧
      (s.verbosity = t.verbosity →
        (e.process s name text).1.verbosity = (e.process t name text).1.verbosity)) ∧
    ∀ s other value, (e.footprint name).Disjoint (e.footprint other) →
      (e.process (e.process s name text).1 other value).2 = (e.process s other value).2 ∧
      (e.process (e.process s other value).1 name text).2 = (e.process s name text).2 ∧
      (e.process (e.process s name text).1 other value).1 =
        (e.process (e.process s other value).1 name text).1 := by
  refine ⟨fun s => ?_, fun s t same => ?_, fun s other value apart => ?_⟩
  · exact ⟨fun key => value?_process_of_not_mem, verbosity_process_of_not_mem⟩
  · exact ⟨answer_congr same, fun key => value?_process_congr same,
      selectionCriteriaFound_congr same, openReferencesConflict_congr same, verbosity_congr same⟩
  · refine ⟨answer_congr fun key member => ?_, answer_congr fun key member => ?_,
      process_comm apart⟩
    · exact value?_process_of_not_mem fun member' => apart member' member
    · exact value?_process_of_not_mem fun member' => apart member member'

theorem process_footprint_title_scroll :
    let e : Engine := ⟨.standard, {}, Site.host { request := .ofList [("DPL_count", "7")] }⟩
    let titled := (e.process e.start "title" "Help:Contents").1
    let scrolled := (e.process e.start "scroll" "yes").1
    (e.footprint "title").Disjoint (e.footprint "scroll") ∧
      (e.process titled "scroll" "yes").1 = (e.process scrolled "title" "Help:Contents").1 ∧
      (e.process titled "scroll" "yes").1.spec.integer? "count" = some 7 := by
  intro e titled scrolled
  have apart : (e.footprint "title").Disjoint (e.footprint "scroll") := by
    have outside : ∀ key ∈ e.footprint "title", key ∉ e.footprint "scroll" := by decide +kernel
    exact fun key member member' => outside key member member'
  have swapped := (process_footprint e "title" "Help:Contents").2.2 e.start "scroll" "yes" apart
  exact ⟨apart, swapped.2.2, by decide +kernel⟩

end WikiQuery.Engine

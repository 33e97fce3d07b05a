import WikiQuery.Engine
import WikiQuery.Proofs.Footprint
import WikiQuery.Proofs.Performance
import WikiQuery.Registry.Standard
import WikiQuery.Site

/-!
What one pair does to a session. A name that is not to be had leaves it as it is, a refused text
only leaves the note that the parameter was given, and an accepted text makes its change as a whole.
-/

set_option autoImplicit false

namespace WikiQuery

namespace Registry

theorem name_of_find? {r : Registry} {name : String} {p : Parameter} (h : r.find? name = some p) :
    p.name = name := by
  simpa using List.find?_some h

theorem mem_of_find? {r : Registry} {name : String} {p : Parameter} (h : r.find? name = some p) :
    p ∈ r.parameters :=
  List.mem_of_find?_eq_some h

end Registry

namespace Engine

variable {e : Engine} {s : Session} {name text : String} {p : Parameter}

/-- A parameter is to be had under its name, from its richness on, with its capability. -/
theorem lookup_eq_ok_iff :
    e.lookup name = .ok p ↔
      name ≠ "" ∧ e.registry.find? name = some p ∧ p.richness ≤ e.settings.richness ∧
        ∀ capability ∈ p.permission, e.host.hasCapability capability = true := by
  unfold lookup
  cases found : e.registry.find? name with
  | none => split <;> simp
  | some q =>
    simp only [String.isEmpty_iff]
    constructor
    · intro h
      split at h
      · cases h
      · rename_i named
        split at h
        · cases h
        · cases needed : q.permission <;> grind
    · rintro ⟨named, ⟨rfl⟩, rich, allowed⟩
      rw [if_neg named, if_neg (Nat.not_lt.mpr rich)]
      cases needed : p.permission with
      | none => rfl
      | some capability => simp [allowed capability needed]

/-- A parameter with rules of its own, free to all, makes the change that they say. -/
theorem lookup_of_handler {rules : Handler} (named : name ≠ "")
    (found : e.registry.find? name = some p) (handled : p.handler = some rules)
    (rich : p.richness ≤ e.settings.richness) (free : p.permission = none) :
    e.lookup name = .ok p ∧ ∀ spec text,
      Reading.change? e.settings e.host p spec text =
        Reading.handled? e.settings e.host p spec text rules := by
  refine ⟨lookup_eq_ok_iff.mpr ⟨named, found, rich, by simp [free]⟩, fun spec text => ?_⟩
  rw [Reading.change?, handled]

/-- A name is refused if it is empty, not known, not to be had yet, or without its capability; the first
of these counts. -/
theorem lookup_eq_error_cases {refusal : ParameterError} (h : e.lookup name = .error refusal) :
    (name = "" ∧ refusal = .structural .emptyName) ∨
      (e.registry.find? name = none ∧ refusal = .unknownParameter name) ∨
      (∃ p, e.registry.find? name = some p ∧ e.settings.richness < p.richness ∧
        refusal = .notAvailable p.name p.richness e.settings.richness) ∨
      ∃ p capability, e.registry.find? name = some p ∧ p.richness ≤ e.settings.richness ∧
        p.permission = some capability ∧ e.host.hasCapability capability = false ∧
        refusal = .authorization p.name capability := by
  unfold lookup at h
  split at h
  · rename_i nameless
    exact .inl ⟨String.isEmpty_iff.mp nameless, (Except.error.inj h).symm⟩
  · cases found : e.registry.find? name with
    | none =>
      simp only [found, Except.error.injEq] at h
      exact .inr (.inl ⟨rfl, h.symm⟩)
    | some p =>
      simp only [found] at h
      split at h
      · rename_i poor
        exact .inr (.inr (.inl ⟨p, rfl, poor, (Except.error.inj h).symm⟩))
      · rename_i rich
        cases needed : p.permission with
        | none => simp [needed] at h
        | some capability =>
          cases granted : e.host.hasCapability capability with
          | true => simp [needed, granted] at h
          | false =>
            simp only [needed, granted, Bool.false_eq_true, if_false, Except.error.injEq] at h
            exact .inr (.inr (.inr ⟨p, capability, rfl, Nat.not_lt.mp rich, needed, granted, h.symm⟩))

theorem mem_of_lookup (found : e.lookup name = .ok p) : p ∈ e.registry.parameters :=
  Registry.mem_of_find? (lookup_eq_ok_iff.mp found).2.1

theorem name_of_lookup (found : e.lookup name = .ok p) : p.name = name :=
  Registry.name_of_find? (lookup_eq_ok_iff.mp found).2.1

/-- No name is refused for the text that stands behind it. -/
theorem lookup_ne_validation {given value : String} :
    e.lookup name ≠ .error (.validation given value) := by
  unfold lookup
  intro h
  repeat' split at h
  all_goals cases h

/-- A parameter that may be used makes its change, or it is refused and has changed nothing. -/
theorem accept_eq (e : Engine) (s : Session) (p : Parameter) (text : String) :
    e.accept s p text =
      match Reading.change? e.settings e.host p s.spec text with
      | none => (s, some (.validation p.name text))
      | some change =>
        ({ s with spec := s.spec.commit p change }.withVerbosity change.verbosity, none) := by
  unfold accept
  rw [Procedure.performs_parameter e.settings e.host p text s]
  dsimp only
  cases Reading.change? e.settings e.host p s.spec text with
  | none => rfl
  | some change => exact congrArg (·, none) (s.settle_apply p change)

/-- By the time that a text is refused, the steps by which it is read have left the query as it was. -/
theorem accept_of_refused {after : Session} {refusal : ParameterError}
    (refused : e.accept s p text = (after, some refusal)) :
    after = s ∧ refusal = .validation p.name text := by
  have kept := (Procedure.performs_parameter e.settings e.host p text).unchanged_of_refused (s := s)
  unfold accept at refused
  cases run : (Procedure.parameter e.settings e.host p text).run s with
  | mk taken left =>
    rw [run] at kept refused
    cases taken with
    | true => cases refused
    | false =>
      obtain ⟨rfl, same⟩ := Prod.mk.inj refused
      exact ⟨(kept rfl).2, (Option.some.inj same).symm⟩

theorem process_of_lookup_error {refusal : ParameterError} (h : e.lookup name = .error refusal) :
    e.process s name text = (s, some refusal) := by
  simp only [process, h]

theorem process_of_refused (h : e.lookup name = .ok p)
    (refused : Reading.change? e.settings e.host p s.spec text = none) :
    e.process s name text =
      ({ s with spec := s.spec.mark p.name }, some (.validation p.name text)) := by
  simp only [process, h, accept_eq, Reading.change?_mark, refused]

theorem process_of_accepted {change : Change} (h : e.lookup name = .ok p)
    (accepted : Reading.change? e.settings e.host p s.spec text = some change) :
    e.process s name text =
      ({ s with spec := (s.spec.mark p.name).commit p change }.withVerbosity change.verbosity,
        none) := by
  simp only [process, h, accept_eq, Reading.change?_mark, accepted]

/-- A pair that is not refused makes a change. -/
theorem exists_change_of_answer (taken : (e.process s name text).2 = none) :
    ∃ p change, e.lookup name = .ok p ∧
      Reading.change? e.settings e.host p s.spec text = some change ∧
      e.process s name text =
        ({ s with spec := (s.spec.mark p.name).commit p change }.withVerbosity change.verbosity,
          none) := by
  cases found : e.lookup name with
  | error refusal =>
    rw [process_of_lookup_error found] at taken
    cases taken
  | ok p =>
    cases read : Reading.change? e.settings e.host p s.spec text with
    | none =>
      rw [process_of_refused found read] at taken
      cases taken
    | some change => exact ⟨p, change, rfl, read, process_of_accepted found read⟩

/-- A refused pair leaves the values of a query, what was noted about it, and the level of reports
as they were. Only where the text was refused, and not the name, the parameter is noted as given. -/
theorem process_atomic {after : Session} {refusal : ParameterError}
    (refused : e.process s name text = (after, some refusal)) :
    after.spec.values = s.spec.values ∧
      after.spec.selectionCriteriaFound = s.spec.selectionCriteriaFound ∧
      after.spec.openReferencesConflict = s.spec.openReferencesConflict ∧
      after.verbosity = s.verbosity ∧
      (∀ given value, refusal = .validation given value →
        ∃ p, e.registry.find? name = some p ∧ given = p.name ∧ value = text ∧
          after.spec.processed = s.spec.processed.insert p.name) ∧
      ((∀ given value, refusal ≠ .validation given value) →
        after.spec.processed = s.spec.processed) := by
  cases found : e.lookup name with
  | error error =>
    rw [process_of_lookup_error found] at refused
    obtain ⟨rfl, same⟩ := Prod.mk.inj refused
    obtain rfl := Option.some.inj same
    refine ⟨rfl, rfl, rfl, rfl, ?_, fun _ => rfl⟩
    rintro given value rfl
    exact absurd found lookup_ne_validation
  | ok p =>
    simp only [process, found] at refused
    obtain ⟨rfl, rfl⟩ := accept_of_refused refused
    refine ⟨rfl, rfl, rfl, rfl, ?_, fun other => absurd rfl (other p.name text)⟩
    rintro given value validation
    obtain ⟨rfl, rfl⟩ := ParameterError.validation.inj validation
    exact ⟨p, (lookup_eq_ok_iff.mp found).2.1, rfl, rfl, rfl⟩

theorem process_atomic_bogus_mode :
    let e : Engine := ⟨.standard, {}, Site.host {}⟩
    let s := (e.process e.start "count" "10").1
    let after := (e.process s "mode" "bogus").1
    (e.process s "mode" "bogus").2 = some (.validation "mode" "bogus") ∧
      after.spec.values = s.spec.values ∧ after.verbosity = some 2 ∧
      after.spec.processed = s.spec.processed.insert "mode" := by
  intro e s after
  have refused : e.process s "mode" "bogus" = (after, some (.validation "mode" "bogus")) :=
    Prod.ext rfl (by decide +kernel)
  obtain ⟨values, -, -, verbosity, noted, -⟩ := process_atomic refused
  obtain ⟨p, -, named, -, processed⟩ := noted "mode" "bogus" rfl
  rw [← named] at processed
  have level : s.verbosity = some 2 := by decide +kernel
  exact ⟨congrArg Prod.snd refused, values, verbosity.trans level, processed⟩

theorem answer_process (h : e.lookup name = .ok p) :
    (e.process s name text).2 =
      if (Reading.change? e.settings e.host p s.spec text).isSome then none
      else some (.validation p.name text) := by
  cases taken : Reading.change? e.settings e.host p s.spec text with
  | none => rw [process_of_refused h taken]; rfl
  | some change => rw [process_of_accepted h taken]; rfl

/-- A parameter that can be had notes whether it selects, once its text is taken. -/
theorem selectionCriteriaFound_process (h : e.lookup name = .ok p) :
    (e.process s name text).1.spec.selectionCriteriaFound =
      (s.spec.selectionCriteriaFound ||
        (Reading.change? e.settings e.host p s.spec text).isSome && p.selects) := by
  cases taken : Reading.change? e.settings e.host p s.spec text with
  | none =>
    rw [process_of_refused h taken]
    simp
  | some change =>
    rw [process_of_accepted h taken]
    simp

theorem openReferencesConflict_process (h : e.lookup name = .ok p) :
    (e.process s name text).1.spec.openReferencesConflict =
      (s.spec.openReferencesConflict || (Reading.change? e.settings e.host p s.spec text).any
        fun change => change.conflicts || p.conflicts) := by
  cases taken : Reading.change? e.settings e.host p s.spec text with
  | none =>
    rw [process_of_refused h taken]
    simp
  | some change =>
    rw [process_of_accepted h taken]
    simp [Bool.or_assoc]

theorem processed_process (h : e.lookup name = .ok p) :
    (e.process s name text).1.spec.processed = s.spec.processed.insert p.name := by
  cases taken : Reading.change? e.settings e.host p s.spec text with
  | none => rw [process_of_refused h taken]; rfl
  | some change => rw [process_of_accepted h taken]; rfl

theorem verbosity_process (h : e.lookup name = .ok p) :
    (e.process s name text).1.verbosity =
      ((Reading.change? e.settings e.host p s.spec text).bind (·.verbosity)).or s.verbosity := by
  cases taken : Reading.change? e.settings e.host p s.spec text with
  | none => rw [process_of_refused h taken]; rfl
  | some change => rw [process_of_accepted h taken]; rfl

end Engine

end WikiQuery

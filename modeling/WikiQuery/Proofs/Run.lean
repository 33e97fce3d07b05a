import WikiQuery.Directive
import WikiQuery.Proofs.Commutation
import WikiQuery.Proofs.Sorting

/-!
Runs of many pairs. Each pair is either accepted or refused on the way, and the refused ones leave
no trace but the note that they were given, so the accepted pairs alone come to the same query.
-/

set_option autoImplicit false

namespace WikiQuery.Engine

variable {e : Engine} {s t : Session} {name text : String} {pair : Pair} {pairs : List Pair}

/-- The query after pairs were read one after the other, whatever became of them. -/
def run (e : Engine) (s : Session) (pairs : List Pair) : Session :=
  pairs.foldl (fun s pair => (e.process s pair.1 pair.2).1) s

/-- The refusal of each pair on the way, if there is one. -/
def answers (e : Engine) (s : Session) : List Pair → List (Pair × Option ParameterError)
  | [] => []
  | pair :: pairs =>
    (pair, (e.process s pair.1 pair.2).2) :: e.answers (e.process s pair.1 pair.2).1 pairs

/-- The pairs that are accepted on the way. -/
def accepted (e : Engine) (s : Session) (pairs : List Pair) : List Pair :=
  (e.answers s pairs).filterMap fun answer => if answer.2.isNone then some answer.1 else none

/-- The pairs that are refused on the way, each with its refusal. -/
def refused (e : Engine) (s : Session) (pairs : List Pair) : List (Pair × ParameterError) :=
  (e.answers s pairs).filterMap fun answer => answer.2.map fun refusal => (answer.1, refusal)

@[simp] theorem run_nil (s : Session) : e.run s [] = s :=
  rfl

@[simp] theorem run_cons (s : Session) (pair : Pair) (pairs : List Pair) :
    e.run s (pair :: pairs) = e.run (e.process s pair.1 pair.2).1 pairs :=
  rfl

@[simp] theorem refused_nil (s : Session) : e.refused s [] = [] :=
  rfl

theorem accepted_cons_of_none (h : (e.process s pair.1 pair.2).2 = none) :
    e.accepted s (pair :: pairs) = pair :: e.accepted (e.process s pair.1 pair.2).1 pairs := by
  simp [accepted, answers, h]

theorem accepted_cons_of_some {refusal : ParameterError}
    (h : (e.process s pair.1 pair.2).2 = some refusal) :
    e.accepted s (pair :: pairs) = e.accepted (e.process s pair.1 pair.2).1 pairs := by
  simp [accepted, answers, h]

/-- An accepted pair stays among the accepted ones, whatever stands in front of it. -/
theorem mem_accepted_cons {other : Pair}
    (h : other ∈ e.accepted (e.process s pair.1 pair.2).1 pairs) :
    other ∈ e.accepted s (pair :: pairs) := by
  cases answer : (e.process s pair.1 pair.2).2 with
  | none => exact accepted_cons_of_none answer ▸ List.mem_cons_of_mem pair h
  | some refusal => exact accepted_cons_of_some answer ▸ h

theorem refused_cons_of_none (h : (e.process s pair.1 pair.2).2 = none) :
    e.refused s (pair :: pairs) = e.refused (e.process s pair.1 pair.2).1 pairs := by
  simp [refused, answers, h]

theorem refused_cons_of_some {refusal : ParameterError}
    (h : (e.process s pair.1 pair.2).2 = some refusal) :
    e.refused s (pair :: pairs) =
      (pair, refusal) :: e.refused (e.process s pair.1 pair.2).1 pairs := by
  simp [refused, answers, h]

theorem run_append (s : Session) (pairs others : List Pair) :
    e.run s (pairs ++ others) = e.run (e.run s pairs) others :=
  List.foldl_append

/-- A run changes no value that none of its pairs changes. -/
theorem value?_run_of_forall {key : String}
    (h : ∀ pair ∈ pairs, ∀ s : Session,
      (e.process s pair.1 pair.2).1.spec.value? key = s.spec.value? key) (s : Session) :
    (e.run s pairs).spec.value? key = s.spec.value? key := by
  induction pairs generalizing s with
  | nil => rfl
  | cons pair pairs ih =>
    have rest := ih fun other later => h other (List.mem_cons_of_mem pair later)
    rw [run_cons, rest, h pair List.mem_cons_self]

/-- An accepted pair is accepted by the query that the pairs before it come to. -/
theorem exists_of_mem_accepted (member : pair ∈ e.accepted s pairs) :
    ∃ before after, pairs = before ++ pair :: after ∧
      (e.process (e.run s before) pair.1 pair.2).2 = none := by
  induction pairs generalizing s with
  | nil => cases member
  | cons first pairs ih =>
    cases answer : (e.process s first.1 first.2).2 with
    | none =>
      rw [accepted_cons_of_none answer] at member
      rcases List.mem_cons.mp member with rfl | later
      · exact ⟨[], pairs, rfl, answer⟩
      · obtain ⟨before, after, rfl, taken⟩ := ih later
        exact ⟨first :: before, after, rfl, taken⟩
    | some refusal =>
      rw [accepted_cons_of_some answer] at member
      obtain ⟨before, after, rfl, taken⟩ := ih member
      exact ⟨first :: before, after, rfl, taken⟩

/-- Some pair brings a thing, and all later pairs spare it. -/
def Lasts (brings spares : Pair → Prop) (pairs : List Pair) : Prop :=
  ∃ before pair after, pairs = before ++ pair :: after ∧ brings pair ∧ ∀ other ∈ after, spares other

section Lasts

variable {brings spares : Pair → Prop}

@[simp] theorem not_lasts_nil : ¬Lasts brings spares [] := by
  rintro ⟨before, pair, after, split, -⟩
  simp at split

theorem lasts_cons_iff :
    Lasts brings spares (pair :: pairs) ↔
      (brings pair ∧ ∀ other ∈ pairs, spares other) ∨ Lasts brings spares pairs := by
  constructor
  · rintro ⟨before, found, after, split, here, spared⟩
    cases before with
    | nil =>
      obtain ⟨rfl, rfl⟩ := List.cons.inj split
      exact .inl ⟨here, spared⟩
    | cons first before =>
      obtain ⟨rfl, rfl⟩ := List.cons.inj split
      exact .inr ⟨before, found, after, rfl, here, spared⟩
  · rintro (⟨here, spared⟩ | ⟨before, found, after, rfl, here, spared⟩)
    · exact ⟨[], pair, pairs, rfl, here, spared⟩
    · exact ⟨pair :: before, found, after, rfl, here, spared⟩

instance decidableLasts [DecidablePred brings] [DecidablePred spares] :
    (pairs : List Pair) → Decidable (Lasts brings spares pairs)
  | [] => isFalse not_lasts_nil
  | pair :: pairs =>
    have := decidableLasts pairs
    decidable_of_iff ((brings pair ∧ ∀ other ∈ pairs, spares other) ∨ Lasts brings spares pairs)
      lasts_cons_iff.symm

end Lasts

/-- No pair is lost: each one has its answer. -/
theorem map_fst_answers (s : Session) (pairs : List Pair) :
    (e.answers s pairs).map (·.1) = pairs := by
  induction pairs generalizing s with
  | nil => rfl
  | cons pair pairs ih => rw [answers, List.map_cons, ih]

theorem accepted_sublist (s : Session) (pairs : List Pair) :
    (e.accepted s pairs).Sublist pairs := by
  induction pairs generalizing s with
  | nil => exact List.Sublist.refl []
  | cons pair pairs ih =>
    cases answer : (e.process s pair.1 pair.2).2 with
    | none =>
      rw [accepted_cons_of_none answer]
      exact (ih _).cons_cons pair
    | some refusal =>
      rw [accepted_cons_of_some answer]
      exact (ih _).cons pair

theorem refused_sublist (s : Session) (pairs : List Pair) :
    ((e.refused s pairs).map (·.1)).Sublist pairs := by
  induction pairs generalizing s with
  | nil => exact List.Sublist.refl []
  | cons pair pairs ih =>
    cases answer : (e.process s pair.1 pair.2).2 with
    | none =>
      rw [refused_cons_of_none answer]
      exact (ih _).cons pair
    | some refusal =>
      rw [refused_cons_of_some answer, List.map_cons]
      exact (ih _).cons_cons pair

theorem accepted_append_refused_perm (s : Session) (pairs : List Pair) :
    (e.accepted s pairs ++ (e.refused s pairs).map (·.1)).Perm pairs := by
  induction pairs generalizing s with
  | nil => exact List.Perm.refl []
  | cons pair pairs ih =>
    cases answer : (e.process s pair.1 pair.2).2 with
    | none =>
      rw [accepted_cons_of_none answer, refused_cons_of_none answer, List.cons_append]
      exact (ih _).cons pair
    | some refusal =>
      rw [accepted_cons_of_some answer, refused_cons_of_some answer, List.map_cons]
      exact List.perm_middle.trans ((ih _).cons pair)

/-- A run ends with its first fatal refusal; if there is none, all refusals become warnings. -/
theorem processAll_eq (s : Session) (pairs : List Pair) :
    e.processAll s pairs =
      match (e.refused s pairs).findSome? fun r => e.fatal? r.2 with
      | some error => .error error
      | none => .ok (e.run s pairs, (e.refused s pairs).map (·.2)) := by
  induction pairs generalizing s with
  | nil => rfl
  | cons pair pairs ih =>
    rcases read : e.process s pair.1 pair.2 with ⟨after, answer⟩
    cases answer with
    | none =>
      rw [refused_cons_of_none (congrArg Prod.snd read), run_cons]
      simp only [processAll, read, ih]
    | some refusal =>
      rw [refused_cons_of_some (congrArg Prod.snd read), run_cons]
      simp only [processAll, read, List.findSome?_cons]
      cases fatal : e.fatal? refusal with
      | some error => rfl
      | none =>
        simp only [ih]
        cases later : (e.refused after pairs).findSome? fun r => e.fatal? r.2 <;> rfl

/-- The error that a name ends a directive with, whatever text stands behind it. -/
def ending? (e : Engine) (name : String) : Option DirectiveError :=
  match e.lookup name with
  | .error refusal => e.fatal? refusal
  | .ok _ => none

/-- Whether the refusal of a pair is fatal can be told from its name. -/
theorem bind_fatal?_process (s : Session) (name text : String) :
    (e.process s name text).2.bind e.fatal? = e.ending? name := by
  unfold ending?
  cases found : e.lookup name with
  | error refusal => rw [process_of_lookup_error found, Option.bind_some]
  | ok p =>
    rw [answer_process found]
    split <;> rfl

theorem findSome?_refused (s : Session) (pairs : List Pair) :
    ((e.refused s pairs).findSome? fun r => e.fatal? r.2) =
      pairs.findSome? fun pair => e.ending? pair.1 := by
  induction pairs generalizing s with
  | nil => rfl
  | cons pair pairs ih =>
    rw [List.findSome?_cons, ← bind_fatal?_process s pair.1 pair.2,
      ← ih (e.process s pair.1 pair.2).1]
    cases answer : (e.process s pair.1 pair.2).2 with
    | none => rw [refused_cons_of_none answer, Option.bind_none]
    | some refusal => rw [refused_cons_of_some answer, Option.bind_some, List.findSome?_cons]

theorem processAll_eq_error_iff {error : DirectiveError} :
    e.processAll s pairs = .error error ↔
      pairs.findSome? (fun pair => e.ending? pair.1) = some error := by
  rw [processAll_eq, findSome?_refused]
  cases pairs.findSome? fun pair => e.ending? pair.1 with
  | some first => simp
  | none => simp

theorem processAll_eq_ok_iff {after : Session} {warnings : List ParameterError} :
    e.processAll s pairs = .ok (after, warnings) ↔
      (∀ r ∈ e.refused s pairs, e.fatal? r.2 = none) ∧ after = e.run s pairs ∧
        warnings = (e.refused s pairs).map (·.2) := by
  rw [← List.findSome?_eq_none_iff, processAll_eq]
  cases (e.refused s pairs).findSome? fun r => e.fatal? r.2 with
  | some error => simp
  | none => simp [eq_comm]

theorem isFatal_of_fatal? {refusal : ParameterError} (h : e.fatal? refusal = none) :
    refusal.isFatal = false := by
  cases refusal with
  | authorization | structural => cases h
  | unknownParameter | notAvailable | validation => rfl

/-- A query has the values of another, and the same was noted about both, but the parameters that
were given are among those of the other. -/
structure Echoes (s t : Session) : Prop where
  value? : ∀ key, s.spec.value? key = t.spec.value? key
  selects : s.spec.selectionCriteriaFound = t.spec.selectionCriteriaFound
  conflicts : s.spec.openReferencesConflict = t.spec.openReferencesConflict
  processed : ∀ given ∈ s.spec.processed, given ∈ t.spec.processed
  verbosity : s.verbosity = t.verbosity

theorem Echoes.refl (s : Session) : Echoes s s :=
  ⟨fun _ => rfl, rfl, rfl, fun _ member => member, rfl⟩

theorem Echoes.answer (h : Echoes s t) (name text : String) :
    (e.process s name text).2 = (e.process t name text).2 :=
  answer_congr fun key _ => h.value? key

theorem Echoes.process (h : Echoes s t) (name text : String) :
    Echoes (e.process s name text).1 (e.process t name text).1 := by
  have values := fun key (_ : key ∈ e.footprint name) => h.value? key
  refine ⟨fun key => ?_, selectionCriteriaFound_congr values h.selects,
    openReferencesConflict_congr values h.conflicts, fun given member => ?_,
    verbosity_congr values h.verbosity⟩
  · by_cases touched : key ∈ e.footprint name
    · exact value?_process_congr values touched
    · rw [value?_process_of_not_mem touched, value?_process_of_not_mem touched, h.value? key]
  · cases found : e.lookup name with
    | error refusal =>
      rw [process_of_lookup_error found] at member ⊢
      exact h.processed given member
    | ok p =>
      rw [processed_process found, Std.ExtTreeSet.mem_insert] at member ⊢
      exact member.imp_right (h.processed given)

/-- A refused pair can be left out. -/
theorem Echoes.process_right (h : Echoes s t) {refusal : ParameterError}
    (refused : (e.process t name text).2 = some refusal) :
    Echoes s (e.process t name text).1 := by
  cases found : e.lookup name with
  | error refusal =>
    rw [process_of_lookup_error found]
    exact h
  | ok p =>
    cases taken : Reading.change? e.settings e.host p t.spec text with
    | some change =>
      rw [process_of_accepted found taken] at refused
      cases refused
    | none =>
      rw [process_of_refused found taken]
      refine ⟨h.value?, h.selects, h.conflicts, fun given member => ?_, h.verbosity⟩
      exact Std.ExtTreeSet.mem_insert.mpr (.inr (h.processed given member))

/-- The accepted pairs of a run come to its query on their own, and none of them is refused there.
-/
theorem Echoes.run_accepted (h : Echoes s t) (pairs : List Pair) :
    Echoes (e.run s (e.accepted t pairs)) (e.run t pairs) ∧
      e.refused s (e.accepted t pairs) = [] := by
  induction pairs generalizing s t with
  | nil => exact ⟨h, rfl⟩
  | cons pair pairs ih =>
    -- Both runs take an accepted pair; a refused one is a step of the longer run alone.
    cases answer : (e.process t pair.1 pair.2).2 with
    | none =>
      have same := (h.answer (e := e) pair.1 pair.2).trans answer
      rw [accepted_cons_of_none answer, run_cons, run_cons, refused_cons_of_none same]
      exact ih (h.process pair.1 pair.2)
    | some refusal =>
      rw [accepted_cons_of_some answer, run_cons]
      exact ih (h.process_right answer)

/-- Whether a query makes sense follows from its categories, its listing of references, and what was
noted about it. -/
theorem inconsistency?_congr {spec other : Specification} (settings : Settings)
    (count : spec.totalCategoryCount = other.totalCategoryCount)
    (listing : spec.openReferences = other.openReferences)
    (selects : spec.selectionCriteriaFound = other.selectionCriteriaFound)
    (conflicts : spec.openReferencesConflict = other.openReferencesConflict) :
    inconsistency? settings spec = inconsistency? settings other := by
  simp only [inconsistency?, count, listing, selects, conflicts]

theorem Echoes.inconsistency? (h : Echoes s t) (settings : Settings) :
    Engine.inconsistency? settings s.spec = Engine.inconsistency? settings t.spec := by
  refine inconsistency?_congr settings ?_ ?_ h.selects h.conflicts
  · simp only [Specification.totalCategoryCount, Specification.categoryCount,
      Specification.categories?, h.value?]
  · simp only [Specification.openReferences, h.value?]

theorem runPairs_of_sorted {inOrder : List Pair} (order : Pair.sorted pairs = .ok inOrder) :
    e.runPairs pairs = e.runSorted inOrder := by
  simp only [runPairs, order]

/-- The pairs of a directive are read in their order, if each of them has a name. -/
theorem runPairs_of_named (named : ∀ pair ∈ pairs, pair.1 ≠ "") :
    e.runPairs pairs = e.runSorted (Pair.prioritized pairs) :=
  runPairs_of_sorted (Pair.sorted_eq_ok_iff.mpr ⟨named, rfl⟩)

/-- What a directive comes to if its pairs do not end it. -/
theorem runSorted_of_processAll {after : Session} {warnings : List ParameterError}
    (ran : e.processAll e.start pairs = .ok (after, warnings)) :
    e.runSorted pairs =
      match inconsistency? e.settings after.spec with
      | some error => .error error
      | none => .ok ⟨after.spec, warnings, fingerprint pairs e.host.digest⟩ := by
  cases judged : inconsistency? e.settings after.spec with
  | some error => simp only [runSorted, ran, judged]
  | none => simp only [runSorted, ran, judged]

/-- A directive is accepted if no refusal on the way is fatal and the query makes sense in the end.
-/
theorem runSorted_eq_ok_iff {outcome : Outcome} :
    e.runSorted pairs = .ok outcome ↔
      (∀ r ∈ e.refused e.start pairs, e.fatal? r.2 = none) ∧
        inconsistency? e.settings (e.run e.start pairs).spec = none ∧
        outcome = ⟨(e.run e.start pairs).spec, (e.refused e.start pairs).map (·.2),
          fingerprint pairs e.host.digest⟩ := by
  rw [← List.findSome?_eq_none_iff]
  simp only [runSorted, processAll_eq]
  cases ends : (e.refused e.start pairs).findSome? fun r => e.fatal? r.2 with
  | some error => simp
  | none =>
    cases senseless : inconsistency? e.settings (e.run e.start pairs).spec with
    | some error => simp [senseless]
    | none => simp [senseless, eq_comm]

/-- The query of an accepted directive is the one that its pairs come to, and it makes sense. -/
theorem spec_of_runPairs {outcome : Outcome} (h : e.runPairs pairs = .ok outcome) :
    outcome.spec = (e.run e.start (Pair.prioritized pairs)).spec ∧
      inconsistency? e.settings outcome.spec = none := by
  cases order : Pair.sorted pairs with
  | error error => simp [runPairs, order] at h
  | ok inOrder =>
    rw [runPairs_of_sorted order] at h
    obtain ⟨-, sensible, rfl⟩ := runSorted_eq_ok_iff.mp h
    obtain rfl := (Pair.sorted_eq_ok_iff.mp order).2
    exact ⟨rfl, sensible⟩

theorem exists_outcome_of_isOk (h : (e.runPairs pairs).isOk = true) :
    ∃ outcome, e.runPairs pairs = .ok outcome := by
  cases ran : e.runPairs pairs with
  | error error =>
    rw [ran] at h
    cases h
  | ok outcome => exact ⟨outcome, rfl⟩

/-- Refused pairs have no influence, and no pair is lost. If a directive is accepted, then its pairs
fall into the accepted ones and the refused ones, of which each makes a warning and none is fatal.
The accepted pairs on their own, in the order in which they are read or as they stand in the
directive, are accepted without a warning, and come to the same query. -/
theorem runPairs_accepted {outcome : Outcome} (h : e.runPairs pairs = .ok outcome) :
    ∃ inOrder, Pair.sorted pairs = .ok inOrder ∧
      (e.answers e.start inOrder).map (·.1) = inOrder ∧
      (e.accepted e.start inOrder).Sublist inOrder ∧
      ((e.refused e.start inOrder).map (·.1)).Sublist inOrder ∧
      (e.accepted e.start inOrder ++ (e.refused e.start inOrder).map (·.1)).Perm inOrder ∧
      outcome.warnings = (e.refused e.start inOrder).map (·.2) ∧
      (∀ refusal ∈ outcome.warnings, refusal.isFatal = false ∧ e.fatal? refusal = none) ∧
      Pair.sorted (e.accepted e.start inOrder) = .ok (e.accepted e.start inOrder) ∧
      (∃ left : List Pair, left.Sublist pairs ∧
        Pair.sorted left = .ok (e.accepted e.start inOrder)) ∧
      ∀ left, Pair.sorted left = .ok (e.accepted e.start inOrder) →
        ∃ outcome', e.runPairs left = .ok outcome' ∧ outcome'.warnings = [] ∧
          outcome'.spec.values = outcome.spec.values ∧
          outcome'.spec.selectionCriteriaFound = outcome.spec.selectionCriteriaFound ∧
          outcome'.spec.openReferencesConflict = outcome.spec.openReferencesConflict ∧
          ∀ given ∈ outcome'.spec.processed, given ∈ outcome.spec.processed := by
  cases order : Pair.sorted pairs with
  | error error => simp [runPairs, order] at h
  | ok inOrder =>
    rw [runPairs_of_sorted order] at h
    obtain ⟨harmless, sensible, rfl⟩ := runSorted_eq_ok_iff.mp h
    have sub := accepted_sublist (e := e) e.start inOrder
    obtain ⟨echo, quiet⟩ := (Echoes.refl e.start).run_accepted (e := e) inOrder
    have alone : e.runSorted (e.accepted e.start inOrder) =
        .ok ⟨(e.run e.start (e.accepted e.start inOrder)).spec, [],
          fingerprint (e.accepted e.start inOrder) e.host.digest⟩ := by
      refine runSorted_eq_ok_iff.mpr ⟨?_, ?_, ?_⟩
      · simp [quiet]
      · rw [echo.inconsistency?, sensible]
      · rw [quiet, List.map_nil]
    refine ⟨inOrder, rfl, map_fst_answers _ _, sub, refused_sublist _ _,
      accepted_append_refused_perm _ _, rfl, ?_, Pair.sorted_of_sublist order sub,
      Pair.exists_sublist_of_sorted order sub, ?_⟩
    · intro refusal member
      obtain ⟨r, found, rfl⟩ := List.mem_map.mp member
      exact ⟨isFatal_of_fatal? (harmless r found), harmless r found⟩
    · intro left order
      have values := Std.ExtTreeMap.ext_getElem? echo.value?
      exact ⟨_, (runPairs_of_sorted order).trans alone, rfl, values, echo.selects, echo.conflicts,
        echo.processed⟩

theorem runPairs_accepted_bogus_mode :
    let e : Engine := ⟨.standard, {}, Site.host {}⟩
    let pairs := [("mode", "bogus"), ("count", "3"), ("count", "x"), ("category", "Animals")]
    ∃ outcome, e.runPairs pairs = .ok outcome ∧
      outcome.warnings = [.validation "mode" "bogus", .validation "count" "x"] ∧
      ∃ outcome', e.runPairs [("count", "3"), ("category", "Animals")] = .ok outcome' ∧
        outcome'.warnings = [] ∧ outcome'.spec.values = outcome.spec.values ∧
        ∀ given ∈ outcome'.spec.processed, given ∈ outcome.spec.processed := by
  intro e pairs
  cases ran : e.runPairs pairs with
  | error error =>
    have fine : (e.runPairs pairs).isOk = true := by decide +kernel
    rw [ran] at fine
    cases fine
  | ok outcome =>
    obtain ⟨inOrder, order, -, -, -, -, warnings, -, -, -, alone⟩ := runPairs_accepted ran
    have inOrder_eq : inOrder = Pair.prioritized pairs := (Pair.sorted_eq_ok_iff.mp order).2
    subst inOrder_eq
    have kept : Pair.sorted [("count", "3"), ("category", "Animals")] =
        .ok (e.accepted e.start (Pair.prioritized pairs)) := by decide +kernel
    obtain ⟨outcome', ran', quiet, values, -, -, processed⟩ := alone _ kept
    refine ⟨outcome, rfl, ?_, outcome', ran', quiet, values, processed⟩
    rw [warnings]
    decide +kernel

end WikiQuery.Engine

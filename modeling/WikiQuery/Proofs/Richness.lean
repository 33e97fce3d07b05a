import WikiQuery.Proofs.Run

/-!
The level of richness. It decides which parameters are to be had and nothing else: what is to be had on
a level is read in the same way on every higher one, so a richer wiki only takes more.
-/

set_option autoImplicit false

namespace WikiQuery

/-- The settings with another level of richness. -/
def Settings.atRichness (settings : Settings) (level : Nat) : Settings :=
  { settings with richness := level }

/-- A refusal for want of richness. -/
def ParameterError.isUnavailable : ParameterError → Bool
  | notAvailable _ _ _ => true
  | unknownParameter _ | validation _ _ | authorization _ _ | structural _ => false

namespace Reading

variable {settings : Settings} {host : Host} {p : Parameter} {spec : Specification} {text : String}
  {level : Nat}

theorem handled?_atRichness (handler : Handler) :
    handled? (settings.atRichness level) host p spec text handler =
      handled? settings host p spec text handler := by
  cases handler with
  | inNamespace side =>
    have same : allowedNamespace? (settings.atRichness level) host =
        allowedNamespace? settings host := rfl
    simp only [handled?, inNamespace, same]
  | scroll =>
    have same : scrollWrites (settings.atRichness level) host = scrollWrites settings host := rfl
    simp only [handled?, scroll, same]
  | count =>
    have same : resultCount? (settings.atRichness level) text = resultCount? settings text := rfl
    simp only [handled?, count, same]
  | _ => rfl

/-- The level has no say in how a text is read. -/
theorem change?_atRichness :
    change? (settings.atRichness level) host p spec text = change? settings host p spec text := by
  unfold change?
  cases p.handler with
  | some handler => exact handled?_atRichness handler
  | none => rfl

end Reading

namespace Engine

/-- The same table and wiki under settings of another level. -/
def atRichness (e : Engine) (level : Nat) : Engine :=
  { e with settings := e.settings.atRichness level }

variable {e : Engine} {s : Session} {name text : String} {pairs : List Pair} {low high level : Nat}

theorem lookup_atRichness (e : Engine) (level : Nat) (name : String) :
    (∃ p, (e.atRichness level).lookup name =
        .error (.notAvailable p.name p.richness level) ∧
      e.registry.find? name = some p ∧ level < p.richness) ∨
    ∀ other, level ≤ other →
      (e.atRichness other).lookup name = (e.atRichness level).lookup name := by
  unfold lookup
  split
  · exact .inr fun other _ => rfl
  · have registry : ∀ level, (e.atRichness level).registry = e.registry := fun _ => rfl
    have richness : ∀ level, (e.atRichness level).settings.richness = level := fun _ => rfl
    have host : ∀ level, (e.atRichness level).host = e.host := fun _ => rfl
    simp only [registry, richness, host]
    cases found : e.registry.find? name with
    | none => exact .inr fun other _ => rfl
    | some p =>
      by_cases poor : level < p.richness
      · exact .inl ⟨p, if_pos poor, rfl, poor⟩
      · refine .inr fun other le => ?_
        have rich : ¬other < p.richness := by omega
        simp only [if_neg poor, if_neg rich]

/-- A name that is not refused for want of richness fares the same on every higher level. -/
theorem lookup_of_richer (le : low ≤ high)
    (available : ∀ refusal, (e.atRichness low).lookup name = .error refusal →
      refusal.isUnavailable = false) :
    (e.atRichness high).lookup name = (e.atRichness low).lookup name := by
  rcases e.lookup_atRichness low name with ⟨p, refused, -⟩ | same
  · have contrary := available _ refused
    cases contrary
  · exact same high le

theorem accept_atRichness (e : Engine) (level : Nat) (s : Session) (p : Parameter)
    (text : String) : (e.atRichness level).accept s p text = e.accept s p text := by
  have same : Reading.change? (e.atRichness level).settings (e.atRichness level).host p s.spec
      text = Reading.change? e.settings e.host p s.spec text := Reading.change?_atRichness
  rw [accept_eq, accept_eq, same]

/-- A pair that is not refused for want of richness does the same on every higher level. -/
theorem process_of_richer (le : low ≤ high)
    (available : ∀ refusal, ((e.atRichness low).process s name text).2 = some refusal →
      refusal.isUnavailable = false) :
    (e.atRichness high).process s name text = (e.atRichness low).process s name text := by
  have same : (e.atRichness high).lookup name = (e.atRichness low).lookup name := by
    refine lookup_of_richer le fun refusal refused => available refusal ?_
    rw [process_of_lookup_error refused]
  simp only [process, same, accept_atRichness]

/-- Pairs of which none is refused for want of richness come to the same on every higher level. -/
theorem processAll_of_richer (le : low ≤ high) {after : Session} {warnings : List ParameterError}
    (ran : (e.atRichness low).processAll s pairs = .ok (after, warnings))
    (available : ∀ refusal ∈ warnings, refusal.isUnavailable = false) :
    (e.atRichness high).processAll s pairs = .ok (after, warnings) := by
  induction pairs generalizing s warnings with
  | nil => exact ran
  | cons pair pairs ih =>
    have fatal : (e.atRichness high).fatal? = (e.atRichness low).fatal? := rfl
    rcases read : (e.atRichness low).process s pair.1 pair.2 with ⟨next, answer⟩
    cases answer with
    | none =>
      have same : (e.atRichness high).process s pair.1 pair.2 = (next, none) := by
        rw [process_of_richer le (by simp [read]), read]
      simp only [processAll, read] at ran
      simp only [processAll, same]
      exact ih ran available
    | some refusal =>
      simp only [processAll, read] at ran
      cases ends : (e.atRichness low).fatal? refusal with
      | some error => simp [ends] at ran
      | none =>
        -- The refusal is the first of the warnings, and the others are those of the later pairs.
        simp only [ends] at ran
        cases later : (e.atRichness low).processAll next pairs with
        | error error => simp [later, Except.map] at ran
        | ok rest =>
          simp only [later, Except.map, Except.ok.injEq, Prod.mk.injEq] at ran
          obtain ⟨rfl, rfl⟩ := ran
          obtain ⟨first, others⟩ := List.forall_mem_cons.mp available
          have same : (e.atRichness high).process s pair.1 pair.2 = (next, some refusal) := by
            rw [process_of_richer le (by simp [read, first]), read]
          simp only [processAll, same, fatal, ends, ih later others, Except.map]

theorem runSorted_of_richer (le : low ≤ high) {outcome : Outcome}
    (ran : (e.atRichness low).runSorted pairs = .ok outcome)
    (available : ∀ refusal ∈ outcome.warnings, refusal.isUnavailable = false) :
    (e.atRichness high).runSorted pairs = .ok outcome := by
  have start : (e.atRichness high).start = (e.atRichness low).start := rfl
  have judged : inconsistency? (e.atRichness high).settings =
      inconsistency? (e.atRichness low).settings := rfl
  have host : (e.atRichness high).host = (e.atRichness low).host := rfl
  cases read : (e.atRichness low).processAll (e.atRichness low).start pairs with
  | error error => simp [runSorted, read] at ran
  | ok result =>
    obtain ⟨after, warnings⟩ := result
    have same := runSorted_of_processAll read
    rw [ran] at same
    have quiet : ∀ refusal ∈ warnings, refusal.isUnavailable = false := by
      cases sense : inconsistency? (e.atRichness low).settings after.spec with
      | some error => simp [sense] at same
      | none =>
        simp only [sense, Except.ok.injEq] at same
        rwa [same] at available
    rw [same, runSorted_of_processAll (start ▸ processAll_of_richer le read quiet), judged,
      host]

/-- A higher level of richness only adds. A pair that is not refused for want of richness has the same
answer, query and level of reports on every higher level; so a directive that is accepted without such
a refusal comes to the same query, warnings and fingerprint there. -/
theorem runPairs_of_richer (e : Engine) (le : low ≤ high) :
    (∀ s name text,
      (∀ refusal, ((e.atRichness low).process s name text).2 = some refusal →
        refusal.isUnavailable = false) →
      (e.atRichness high).process s name text = (e.atRichness low).process s name text) ∧
    ∀ pairs outcome, (e.atRichness low).runPairs pairs = .ok outcome →
      (∀ refusal ∈ outcome.warnings, refusal.isUnavailable = false) →
      (e.atRichness high).runPairs pairs = .ok outcome := by
  refine ⟨fun s name text available => process_of_richer le available,
    fun pairs outcome ran available => ?_⟩
  cases order : Pair.sorted pairs with
  | error error => simp [runPairs, order] at ran
  | ok inOrder =>
    rw [runPairs_of_sorted order] at ran ⊢
    exact runSorted_of_richer le ran available

theorem runPairs_of_richer_bogus_mode :
    let e : Engine := ⟨.standard, {}, Site.host {}⟩
    let pairs := [("mode", "bogus"), ("colour", "red"), ("category", "Animals")]
    1 ≤ 4 ∧ ∃ outcome, (e.atRichness 1).runPairs pairs = .ok outcome ∧
      outcome.warnings = [.validation "mode" "bogus", .unknownParameter "colour"] ∧
      (e.atRichness 4).runPairs pairs = .ok outcome ∧
      (e.atRichness 4).process e.start "count" "3" =
        (e.atRichness 1).process e.start "count" "3" := by
  intro e pairs
  obtain ⟨outcome, ran⟩ : ∃ outcome, (e.atRichness 1).runPairs pairs = .ok outcome :=
    exists_outcome_of_isOk (by decide +kernel)
  have warned : ((e.atRichness 1).runPairs pairs).map (·.warnings) =
      .ok [.validation "mode" "bogus", .unknownParameter "colour"] := by decide +kernel
  rw [ran] at warned
  have warnings : outcome.warnings = [.validation "mode" "bogus", .unknownParameter "colour"] :=
    Except.ok.inj warned
  have taken : ((e.atRichness 1).process e.start "count" "3").2 = none := by decide +kernel
  obtain ⟨single, whole⟩ := runPairs_of_richer e (show 1 ≤ 4 by decide)
  refine ⟨by decide, outcome, ran, warnings, whole pairs outcome ran ?_, single _ _ _ ?_⟩
  · rw [warnings]
    decide
  · simp [taken]

end Engine

end WikiQuery

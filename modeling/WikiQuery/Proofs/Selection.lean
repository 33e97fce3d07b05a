import WikiQuery.Proofs.Restriction

/-!
What an accepted directive selects pages by. It is accepted if a parameter that selects pages was
accepted, so that its query has a value by which pages are selected, unless blank texts were all that
such parameters were given in the end.
-/

set_option autoImplicit false

namespace WikiQuery

namespace Engine

variable {e : Engine} {s : Session} {name text key : String} {pairs : List Pair} {site : Site}

private theorem exists_change_standard (standard : e.registry = .standard)
    (taken : (e.process s name text).2 = none) :
    ∃ p change, p.name = name ∧ p ∈ Registry.standard.parameters ∧
      Registry.standard.find? p.name = some p ∧ e.footprint name = p.footprint ∧
      Reading.change? e.settings e.host p s.spec text = some change ∧
      ∀ key, (e.process s name text).1.spec.RestrictsAt key ↔
        (s.spec.write change.writes).RestrictsAt key := by
  obtain ⟨p, change, found, read, processed⟩ := exists_change_of_answer taken
  have known := standard ▸ mem_of_lookup found
  refine ⟨p, change, name_of_lookup found, known, Registry.find?_of_mem known,
    footprint_of_lookup found, read, fun key => ?_⟩
  rw [processed]
  rfl

/-- After an accepted pair, pages are selected under a key only by what it leaves there itself, or by
what was there and is not cleared. -/
theorem restrictsAt_process_cases (standard : e.registry = .standard)
    (taken : (e.process s name text).2 = none)
    (h : (e.process s name text).1.spec.RestrictsAt key) :
    (Pair.Selects .standard (name, text) ∧ ¬Pair.Blank .standard (name, text) ∧
        key ∈ e.footprint name) ∨
      s.spec.RestrictsAt key ∧ ¬Pair.Clears .standard key (name, text) := by
  obtain ⟨p, change, rfl, known, entry, keys, read, after⟩ := exists_change_standard standard taken
  rw [after] at h
  by_cases blank : Pair.Blank .standard (p.name, text)
  · refine .inr ?_
    rcases Reading.writes_of_blank known blank read with ⟨other, side, made⟩ | ⟨user, -, made⟩
    · rw [made, Specification.restrictsAt_write_categoriesOf_iff] at h
      refine ⟨h, ?_⟩
      rintro ⟨user, rfl, -⟩
      exact other (Option.some.inj (entry.symm.trans user))
    · rw [made, Specification.restrictsAt_write_empty_iff] at h
      exact ⟨h.2, fun clears => h.1 clears.2.1⟩
  · obtain ⟨value, held, restricts⟩ := h
    rcases s.spec.value?_write_cases change.writes key with kept | ⟨w, written, rfl, latest⟩
    · refine .inr ⟨⟨value, kept.symm.trans held, restricts⟩, ?_⟩
      rintro ⟨user, rfl, empty⟩
      exact blank (.inr ⟨user, empty⟩)
    · have touched := (Reading.writes_change? change read).writes w written
      have selects := Reading.writers_standard.1 p known w.1 touched restricts.mem_selectingKeys
      refine .inl ⟨?_, blank, keys ▸ touched⟩
      simpa [Pair.Selects, entry] using selects

/-- What pages are selected by under a key is kept, unless it is a user that is cleared. -/
theorem restrictsAt_process_of_spared (standard : e.registry = .standard)
    (hosted : e.host = site.host) (taken : (e.process s name text).2 = none)
    (h : s.spec.RestrictsAt key) (spared : ¬Pair.Clears .standard key (name, text)) :
    (e.process s name text).1.spec.RestrictsAt key := by
  obtain ⟨p, change, rfl, known, entry, keys, read, after⟩ := exists_change_standard standard taken
  rw [after]
  by_cases blank : Pair.Blank .standard (p.name, text)
  · rcases Reading.writes_of_blank known blank read with ⟨other, side, made⟩ | ⟨user, empty, made⟩
    · rwa [made, Specification.restrictsAt_write_categoriesOf_iff]
    · rw [made, Specification.restrictsAt_write_empty_iff]
      refine ⟨?_, h⟩
      rintro rfl
      exact spared ⟨entry.trans (congrArg some user), rfl, empty⟩
  · rcases s.spec.value?_write_cases change.writes key with kept | ⟨w, written, rfl, latest⟩
    · exact h.congr kept
    · have touched := (Reading.writes_change? change read).writes w written
      obtain ⟨value, held, restricts⟩ := h
      have keyed := restricts.mem_selectingKeys
      have selects := Reading.writers_standard.1 p known w.1 touched keyed
      rw [hosted] at read
      have selecting := Reading.selecting_change? known selects blank change read
      exact ⟨w.2, latest, selecting.restricts w written keyed⟩

/-- An accepted pair that selects pages and is not blank leaves a value by which they are. -/
theorem exists_restrictsAt_process (standard : e.registry = .standard) (hosted : e.host = site.host)
    (taken : (e.process s name text).2 = none) (selects : Pair.Selects .standard (name, text))
    (shown : ¬Pair.Blank .standard (name, text)) :
    ∃ key ∈ e.footprint name, (e.process s name text).1.spec.RestrictsAt key := by
  obtain ⟨p, change, rfl, known, entry, keys, read, after⟩ := exists_change_standard standard taken
  have touches := (Reading.writes_change? change read).writes
  rw [hosted] at read
  have selects' : p.selects = true := by simpa [Pair.Selects, entry] using selects
  have selecting := Reading.selecting_change? known selects' shown change read
  obtain ⟨w, written, keyed⟩ := selecting.writes
  obtain ⟨v, written', same, latest⟩ := s.spec.exists_value?_write ⟨w, written, rfl⟩
  refine ⟨w.1, keys ▸ touches w written, (after w.1).mpr ⟨v.2, latest, ?_⟩⟩
  exact same ▸ selecting.restricts v written' (same ▸ keyed)

theorem restrictsAt_of_refused {refusal : ParameterError}
    (refused : (e.process s name text).2 = some refusal) :
    (e.process s name text).1.spec.RestrictsAt key ↔ s.spec.RestrictsAt key := by
  have same := value?_process_of_refused refused key
  exact ⟨fun h => h.congr same.symm, fun h => h.congr same⟩

/-- The parameters of a name and of a key that it writes to are cleared by the same pairs. -/
theorem clears_iff_of_mem_footprint (standard : e.registry = .standard) {pair : Pair}
    (member : key ∈ e.footprint name) :
    pair.Clears .standard key ↔ pair.Clears .standard name := by
  rw [footprint, standard] at member
  cases found : Registry.standard.find? name with
  | none => simp [found] at member
  | some p =>
    rw [found] at member
    replace member : key ∈ p.footprint := member
    have known := Registry.mem_of_find? found
    have named := Registry.name_of_find? found
    constructor
    · rintro ⟨user, same, empty⟩
      have own := Reading.writers_standard.2 _ (Registry.mem_of_find? user) rfl p known member
      obtain rfl : key = name := own.symm.trans named
      exact ⟨user, same, empty⟩
    · rintro ⟨user, same, empty⟩
      obtain rfl : p = Registry.userFilter name := Option.some.inj (found.symm.trans user)
      obtain rfl : key = name := List.mem_singleton.mp member
      exact ⟨user, same, empty⟩

/-- A pair of this name lasts: it selects pages, it is not blank, and no later pair clears it. -/
def Stands (name : String) (pairs : List Pair) : Prop :=
  Lasts (fun pair => pair.1 = name ∧ pair.Selects .standard ∧ ¬pair.Blank .standard)
    (fun pair => ¬pair.Clears .standard name) pairs

/-- Pages are selected under a key after a run by a pair that lasts and writes to the key, or by what
was there before the run. -/
theorem restrictsAt_run_cases (standard : e.registry = .standard) (s : Session) (pairs : List Pair)
    (h : (e.run s pairs).spec.RestrictsAt key) :
    Lasts (fun pair => pair.Selects .standard ∧ ¬pair.Blank .standard ∧ key ∈ e.footprint pair.1)
        (fun pair => ¬pair.Clears .standard key) (e.accepted s pairs) ∨
      s.spec.RestrictsAt key ∧ ∀ pair ∈ e.accepted s pairs, ¬pair.Clears .standard key := by
  induction pairs generalizing s with
  | nil => exact .inr ⟨h, by simp [accepted, answers]⟩
  | cons pair pairs ih =>
    have later := ih _ h
    cases answer : (e.process s pair.1 pair.2).2 with
    | none =>
      rw [accepted_cons_of_none answer, lasts_cons_iff, List.forall_mem_cons]
      rcases later with lasts | ⟨here, spared⟩
      · exact .inl (.inr lasts)
      · rcases restrictsAt_process_cases standard answer here with brings | ⟨before, spares⟩
        · exact .inl (.inl ⟨brings, spared⟩)
        · exact .inr ⟨before, spares, spared⟩
    | some refusal =>
      rw [accepted_cons_of_some answer]
      exact later.imp_right (And.imp_left (restrictsAt_of_refused answer).mp)

theorem restrictsAt_run_of_spared (standard : e.registry = .standard) (hosted : e.host = site.host)
    (s : Session) (pairs : List Pair) (h : s.spec.RestrictsAt key)
    (spared : ∀ pair ∈ e.accepted s pairs, ¬pair.Clears .standard key) :
    (e.run s pairs).spec.RestrictsAt key := by
  induction pairs generalizing s with
  | nil => exact h
  | cons pair pairs ih =>
    cases answer : (e.process s pair.1 pair.2).2 with
    | none =>
      rw [accepted_cons_of_none answer, List.forall_mem_cons] at spared
      exact ih _ (restrictsAt_process_of_spared standard hosted answer h spared.1) spared.2
    | some refusal =>
      rw [accepted_cons_of_some answer] at spared
      exact ih _ ((restrictsAt_of_refused answer).mpr h) spared

theorem exists_restrictsAt_run (standard : e.registry = .standard) (hosted : e.host = site.host)
    (s : Session) (pairs : List Pair) (h : Stands name (e.accepted s pairs)) :
    ∃ key, (e.run s pairs).spec.RestrictsAt key := by
  induction pairs generalizing s with
  | nil => exact absurd h not_lasts_nil
  | cons pair pairs ih =>
    cases answer : (e.process s pair.1 pair.2).2 with
    | none =>
      rw [accepted_cons_of_none answer] at h
      rcases lasts_cons_iff.mp h with ⟨⟨rfl, selects, shown⟩, spared⟩ | later
      · obtain ⟨key, touched, here⟩ :=
          exists_restrictsAt_process standard hosted answer selects shown
        refine ⟨key, restrictsAt_run_of_spared standard hosted _ pairs here fun other member => ?_⟩
        rw [clears_iff_of_mem_footprint standard touched]
        exact spared other member
      · exact ih _ later
    | some refusal =>
      rw [accepted_cons_of_some answer] at h
      exact ih _ h

theorem not_restrictsAt_start (standard : e.registry = .standard) :
    ¬e.start.spec.RestrictsAt key := by
  have unseeded : ∀ key ∈ Registry.standard.selectingKeys,
      (Registry.standard.find? key).bind (·.seed?) = none := by
    decide +kernel
  rintro ⟨value, held, restricts⟩
  rw [value?_start, standard, unseeded key restricts.mem_selectingKeys] at held
  cases held

/-- Pages are selected after a run if and only if one of its accepted pairs lasts. -/
theorem restrictsAt_run_iff (standard : e.registry = .standard) (hosted : e.host = site.host)
    (pairs : List Pair) :
    (∃ key, (e.run e.start pairs).spec.RestrictsAt key) ↔
      ∃ name, Stands name (e.accepted e.start pairs) := by
  constructor
  · rintro ⟨key, held⟩
    rcases restrictsAt_run_cases standard e.start pairs held with lasts | ⟨seeded, -⟩
    · obtain ⟨before, pair, after, split, ⟨selects, shown, touched⟩, spared⟩ := lasts
      refine ⟨pair.1, before, pair, after, split, ⟨rfl, selects, shown⟩, fun other member => ?_⟩
      exact fun clears =>
        spared other member ((clears_iff_of_mem_footprint standard touched).mpr clears)
    · exact absurd seeded (not_restrictsAt_start standard)
  · rintro ⟨name, stands⟩
    exact exists_restrictsAt_run standard hosted e.start pairs stands

/-- That pages are selected is noted for accepted pairs only, and for those that select pages. -/
theorem selects_of_process (standard : e.registry = .standard)
    (h : (e.process s name text).1.spec.selectionCriteriaFound = true) :
    s.spec.selectionCriteriaFound = true ∨
      (e.process s name text).2 = none ∧ Pair.Selects .standard (name, text) := by
  cases found : e.lookup name with
  | error refusal =>
    rw [process_of_lookup_error found] at h
    exact .inl h
  | ok p =>
    rw [selectionCriteriaFound_process found, Bool.or_eq_true, Bool.and_eq_true] at h
    refine h.imp_right ?_
    rintro ⟨taken, selects⟩
    have entry := standard ▸ (lookup_eq_ok_iff.mp found).2.1
    obtain ⟨change, read⟩ := Option.isSome_iff_exists.mp taken
    rw [process_of_accepted found read]
    exact ⟨rfl, by simpa [Pair.Selects, entry] using selects⟩

theorem exists_selects_of_run (standard : e.registry = .standard) (s : Session) (pairs : List Pair)
    (h : (e.run s pairs).spec.selectionCriteriaFound = true) :
    s.spec.selectionCriteriaFound = true ∨
      ∃ pair ∈ e.accepted s pairs, pair.Selects .standard := by
  induction pairs generalizing s with
  | nil => exact .inl h
  | cons pair pairs ih =>
    rcases ih _ h with here | ⟨other, member, selects⟩
    · rcases selects_of_process standard here with before | ⟨answer, selects⟩
      · exact .inl before
      · refine .inr ⟨pair, ?_, selects⟩
        rw [accepted_cons_of_none answer]
        exact List.mem_cons_self
    · exact .inr ⟨other, mem_accepted_cons member, selects⟩

/-- An accepted directive that does not list references has an accepted pair that selects pages. Its
query has a value by which they are selected if and only if an accepted pair of that kind lasts, so it
has one unless blank patterns for categories or blank users were accepted. -/
theorem runPairs_selects (standard : e.registry = .standard) (hosted : e.host = site.host)
    {outcome : Outcome} (ran : e.runPairs pairs = .ok outcome) :
    ((∃ key value, outcome.spec.value? key = some value ∧ Registry.standard.Restricts key value) ↔
      ∃ name, Stands name (e.accepted e.start (Pair.prioritized pairs))) ∧
    (outcome.spec.openReferences.isEnabled = false →
      (∃ pair ∈ e.accepted e.start (Pair.prioritized pairs), pair.Selects .standard) ∧
      ((∀ pair ∈ e.accepted e.start (Pair.prioritized pairs), ¬pair.Blank .standard) →
        ∃ key value, outcome.spec.value? key = some value ∧
          Registry.standard.Restricts key value)) := by
  obtain ⟨reached, sensible⟩ := spec_of_runPairs ran
  have lasts := restrictsAt_run_iff standard hosted (Pair.prioritized pairs)
  rw [← reached] at lasts
  refine ⟨lasts, fun unlisted => ?_⟩
  have noted : outcome.spec.selectionCriteriaFound = true := by
    by_contra unselected
    rw [Bool.not_eq_true] at unselected
    simp [inconsistency?, unlisted, unselected] at sensible
  rw [reached] at noted
  have selects : ∃ pair ∈ e.accepted e.start (Pair.prioritized pairs), pair.Selects .standard :=
    (exists_selects_of_run standard e.start _ noted).resolve_left Bool.false_ne_true
  refine ⟨selects, fun shown => lasts.mpr ?_⟩
  obtain ⟨pair, member, selects⟩ := selects
  obtain ⟨before, after, split⟩ := List.append_of_mem member
  refine ⟨pair.1, before, pair, after, split, ⟨rfl, selects, shown pair member⟩, ?_⟩
  rintro other later ⟨user, same, empty⟩
  have among : other ∈ e.accepted e.start (Pair.prioritized pairs) := by simp [split, later]
  exact shown other among (.inr ⟨same ▸ user, empty⟩)

theorem runPairs_selects_linksto :
    let e : Engine := ⟨.standard, {}, Site.host {}⟩
    let pairs := [("categorymatch", " "), ("createdby", "Jane"), ("createdby", ""),
      ("linksto", "Main Page"), ("mode", "bogus")]
    ∃ outcome, e.runPairs pairs = .ok outcome ∧ outcome.spec.openReferences.isEnabled = false ∧
      outcome.spec.value? "createdby" = some (.text "") ∧
      (∃ pair ∈ e.accepted e.start (Pair.prioritized pairs), pair.Selects .standard) ∧
      ∃ key value, outcome.spec.value? key = some value ∧
        Registry.standard.Restricts key value := by
  intro e pairs
  have fine : (e.runPairs pairs).isOk = true := by decide +kernel
  have hosted : e.host = Site.host {} := rfl
  obtain ⟨outcome, ran⟩ := exists_outcome_of_isOk fine
  have spec := (spec_of_runPairs ran).1
  have unlisted : outcome.spec.openReferences.isEnabled = false := by
    rw [spec]
    decide +kernel
  have cleared : outcome.spec.value? "createdby" = some (.text "") := by
    rw [spec]
    decide +kernel
  have stands : Stands "linksto" (e.accepted e.start (Pair.prioritized pairs)) := by
    unfold Stands
    decide +kernel
  obtain ⟨lasts, selects⟩ := runPairs_selects rfl hosted ran
  exact ⟨outcome, ran, unlisted, cleared, (selects unlisted).1, lasts.mpr ⟨"linksto", stands⟩⟩

/-- A blank pattern for categories is accepted on its own, and so is an empty user, but then there is
no value by which pages are selected. -/
theorem runPairs_selects_nothing :
    let e : Engine := ⟨.standard, {}, Site.host {}⟩
    ∀ pair ∈ [("categorymatch", ""), ("createdby", "")], ∃ outcome,
      e.runPairs [pair] = .ok outcome ∧ outcome.spec.openReferences.isEnabled = false ∧
        ¬∃ key value, outcome.spec.value? key = some value ∧
          Registry.standard.Restricts key value := by
  intro e pair member
  have fine : ∀ pair ∈ [("categorymatch", ""), ("createdby", "")],
      (e.runPairs [pair]).isOk = true ∧
        (e.run e.start (Pair.prioritized [pair])).spec.openReferences.isEnabled = false ∧
        ∀ other ∈ e.accepted e.start (Pair.prioritized [pair]), other.Blank .standard := by
    decide +kernel
  have hosted : e.host = Site.host {} := rfl
  obtain ⟨ok, unlisted, blank⟩ := fine pair member
  obtain ⟨outcome, ran⟩ := exists_outcome_of_isOk ok
  rw [← (spec_of_runPairs ran).1] at unlisted
  refine ⟨outcome, ran, unlisted, ?_⟩
  rintro ⟨key, value, held, restricts⟩
  rw [(spec_of_runPairs ran).1] at held
  obtain ⟨name, before, other, after, split, ⟨-, -, shown⟩, -⟩ :=
    (restrictsAt_run_iff rfl hosted _).mp ⟨key, value, held, restricts⟩
  exact shown (blank other (by simp [split]))

end Engine

end WikiQuery

import WikiQuery.Proofs.Law

/-!
Listings of open references. A query notes once and for all that a parameter was read which cannot
stand beside such a listing. As long as nothing is noted, the values that these parameters write are
still those of a fresh query, also where they share a key with others.
-/

set_option autoImplicit false

namespace WikiQuery

/-- The keys that are only written by parameters which cannot stand beside a listing of open references.
The titles are left out: patterns for titles may stand beside one. -/
def Registry.shunnedKeys (r : Registry) : List String :=
  ["category", "notcategory", "includeuncat", "catheadings", "catnotheadings"] ++
    ((r.parameters.filter (·.conflicts)).map (·.name)).filter (· != "title")

/-- What may stand under a key beside a listing of open references: no exact title, no order but the
first one or none, and under shunned keys no more than a fresh query has there. -/
structure Registry.Bystander (r : Registry) (key : String) (value : Value) : Prop where
  shunned : key ∈ r.shunnedKeys → (r.find? key).bind (·.seed?) = some value
  titles : key = "title" →
    ∃ selector : TitleSelector, selector.exact = [] ∧ value = .titles selector
  order : key = "ordermethod" → (r.find? key).bind (·.seed?) = some value ∨
    ∃ methods, value = .list ("none" :: methods)

/-- What a table has to be so that no parameter can stand beside a listing of open references that writes
what must not stand there. -/
structure Registry.Guards (r : Registry) : Prop where
  shunned : ∀ p ∈ r.parameters, p.conflicts = false → ∀ key ∈ p.footprint, key ∉ r.shunnedKeys
  titles : ∀ p ∈ r.parameters, p.conflicts = false → "title" ∈ p.footprint →
    p.handler ∈ [some (.titlePattern .wanted .regexp), some (.titlePattern .wanted .like)]
  order : ∀ p ∈ r.parameters, p.conflicts = false → "ordermethod" ∈ p.footprint →
    p.handler = some .orderMethod
  untitled : (r.find? "title").bind (·.seed?) = none

theorem Registry.guards_standard : Registry.standard.Guards where
  shunned := by decide +kernel
  titles := by decide +kernel
  order := by decide +kernel
  untitled := by decide +kernel

namespace Reading

variable {settings : Settings} {host : Host} {p : Parameter} {spec : Specification} {text : String}

/-- Patterns leave the exact titles as they are. -/
theorem exact_withTitlePatterns (selector : TitleSelector) (kind : PatternKind)
    (patterns : List String) : (withTitlePatterns selector kind patterns).exact = selector.exact := by
  cases kind with
  | regexp => rfl
  | like => rfl

private theorem exact_titlesOf {r : Registry} (obeyed : spec.Obeys r.Bystander) :
    (titlesOf spec "title").exact = [] := by
  unfold titlesOf Specification.titles?
  cases found : spec.value? "title" with
  | none => rfl
  | some value =>
    obtain ⟨selector, none, rfl⟩ := (obeyed _ _ found).titles rfl
    exact none

private theorem titles_titlePattern {r : Registry} (obeyed : spec.Obeys r.Bystander)
    (kind : PatternKind) :
    Makes (fun change => ∀ w ∈ change.writes,
        ∃ selector : TitleSelector, selector.exact = [] ∧ w.2 = .titles selector)
      (titlePattern .wanted kind spec text) := by
  simp only [titlePattern]
  refine makes_ite (fun _ => makes_none) fun _ => makes_some fun w written => ?_
  obtain rfl := List.mem_singleton.mp written
  refine ⟨_, ?_, rfl⟩
  rw [exact_withTitlePatterns]
  exact exact_titlesOf obeyed

private theorem order_orderMethod :
    Makes (fun change => change.conflicts = false → ∀ w ∈ change.writes,
        ∃ methods, w.2 = .list ("none" :: methods))
      (orderMethod p text) := by
  simp only [orderMethod]
  refine makes_ite (fun _ => makes_some fun agrees w written => ?_) fun _ => makes_none
  obtain rfl := List.mem_singleton.mp written
  have first : (items ',' (Text.lower text)).head? = some "none" := by simpa using agrees
  obtain ⟨methods, eq⟩ := List.head?_eq_some_iff.mp first
  exact ⟨methods, congrArg Value.list eq⟩

/-- What is written without a conflict may stand beside a listing of open references. -/
theorem bystander_change? {r : Registry} (guards : r.Guards) (member : p ∈ r.parameters)
    (obeyed : spec.Obeys r.Bystander) (harmless : p.conflicts = false) :
    Makes (fun change => change.conflicts = false → ∀ w ∈ change.writes, r.Bystander w.1 w.2)
      (change? settings host p spec text) := by
  intro change taken agrees w written
  have touched := (writes_change? change taken).writes w written
  refine ⟨fun shunned => ?_, fun titles => ?_, fun order => ?_⟩
  · exact absurd shunned (guards.shunned p member harmless w.1 touched)
  · have rules := guards.titles p member harmless (titles ▸ touched)
    simp only [List.mem_cons, List.not_mem_nil, or_false] at rules
    rcases rules with rules | rules
    · simp only [change?, rules, handled?] at taken
      exact titles_titlePattern obeyed .regexp change taken w written
    · simp only [change?, rules, handled?] at taken
      exact titles_titlePattern obeyed .like change taken w written
  · have rules := guards.order p member harmless (order ▸ touched)
    simp only [change?, rules, handled?] at taken
    exact .inr (order_orderMethod change taken agrees w written)

end Reading

namespace Engine

variable {e : Engine} {s : Session} {pairs : List Pair}

/-- If no conflict is noted after a pair, then none was noted before, and what stands in the query may
still stand beside a listing of open references. -/
theorem bystander_process (guards : e.registry.Guards) {name text : String}
    (quiet : (e.process s name text).1.spec.openReferencesConflict = false) :
    s.spec.openReferencesConflict = false ∧
      (s.spec.Obeys e.registry.Bystander →
        (e.process s name text).1.spec.Obeys e.registry.Bystander) := by
  rcases e.spec_process_cases s name text with ⟨same, noted⟩ | ⟨p, member, change, taken, made⟩
  · exact ⟨noted.symm.trans quiet, fun obeyed => obeyed.of_values_eq same⟩
  · rw [made, Specification.openReferencesConflict_commit, Bool.or_eq_false_iff,
      Bool.or_eq_false_iff] at quiet
    obtain ⟨⟨before, agrees⟩, harmless⟩ := quiet
    refine ⟨before, fun obeyed => ?_⟩
    rw [made]
    have lawful := Reading.bystander_change? guards member obeyed harmless change taken agrees
    exact (obeyed.write lawful).of_values_eq rfl

/-- If no conflict is noted after pairs, then none was noted before, and what stands in the query may
still stand beside a listing of open references. -/
theorem bystander_run (guards : e.registry.Guards)
    (quiet : (e.run s pairs).spec.openReferencesConflict = false) :
    s.spec.openReferencesConflict = false ∧
      (s.spec.Obeys e.registry.Bystander →
        (e.run s pairs).spec.Obeys e.registry.Bystander) := by
  induction pairs generalizing s with
  | nil => exact ⟨quiet, id⟩
  | cons pair pairs ih =>
    -- A noted conflict stays noted, so the end of the run tells that its first pair is harmless.
    obtain ⟨between, later⟩ := ih quiet
    obtain ⟨before, first⟩ := bystander_process guards between
    exact ⟨before, fun obeyed => later (first obeyed)⟩

theorem bystander_start (guards : e.registry.Guards) :
    e.start.spec.Obeys e.registry.Bystander := by
  intro key value found
  have seeded := (e.value?_start key).symm.trans found
  refine ⟨fun _ => seeded, fun titles => ?_, fun _ => .inl seeded⟩
  rw [titles, guards.untitled] at seeded
  cases seeded

theorem quiet_of_inconsistency? {settings : Settings} {spec : Specification}
    (sensible : inconsistency? settings spec = none)
    (listed : spec.openReferences.isEnabled = true) : spec.openReferencesConflict = false := by
  cases noted : spec.openReferencesConflict with
  | false => rfl
  | true => simp [inconsistency?, listed, noted] at sensible

/-- A shunned key holds what it holds in a fresh query. -/
theorem value?_of_shunned (guards : e.registry.Guards)
    (quiet : (e.run e.start pairs).spec.openReferencesConflict = false) {key : String}
    (shunned : key ∈ e.registry.shunnedKeys) :
    (e.run e.start pairs).spec.value? key = (e.registry.find? key).bind (·.seed?) := by
  have obeyed := (bystander_run guards quiet).2 (bystander_start guards)
  cases found : (e.run e.start pairs).spec.value? key with
  | some value => exact ((obeyed key value found).shunned shunned).symm
  | none =>
    cases seeded : (e.registry.find? key).bind (·.seed?) with
    | none => rfl
    | some value =>
      -- A seed is never taken away.
      have held := covers_run (e := e) e.start pairs key
      rw [value?_start, seeded, found] at held
      exact absurd (held rfl) Bool.false_ne_true

/-- An accepted directive that lists open references selects nothing that cannot stand beside them. -/
theorem runPairs_openReferences (standard : e.registry = .standard) {outcome : Outcome}
    (h : e.runPairs pairs = .ok outcome) (listed : outcome.spec.openReferences.isEnabled = true) :
    (∀ key ∈ ["category", "notcategory", "includeuncat", "catheadings", "catnotheadings"],
      outcome.spec.value? key = none) ∧
    (∀ value, outcome.spec.value? "title" = some value →
      ∃ selector : TitleSelector, selector.exact = [] ∧ value = .titles selector) ∧
    (∀ p ∈ Registry.standard.parameters, p.conflicts = true → p.name ≠ "title" →
      outcome.spec.value? p.name = p.seed?) ∧
    (outcome.spec.value? "ordermethod" = some (.list ["titlewithoutnamespace"]) ∨
      ∃ methods, outcome.spec.value? "ordermethod" = some (.list ("none" :: methods))) ∧
    outcome.spec.totalCategoryCount = 0 := by
  have guards : e.registry.Guards := standard ▸ Registry.guards_standard
  obtain ⟨same, sensible⟩ := spec_of_runPairs h
  have quiet := quiet_of_inconsistency? sensible listed
  rw [same] at quiet ⊢
  have obeyed := (bystander_run guards quiet).2 (bystander_start guards)
  have absent : ∀ key ∈ ["category", "notcategory", "includeuncat", "catheadings",
      "catnotheadings"], (e.run e.start (Pair.prioritized pairs)).spec.value? key = none := by
    intro key member
    have unseeded : ∀ key ∈ ["category", "notcategory", "includeuncat", "catheadings",
        "catnotheadings"], (Registry.standard.find? key).bind (·.seed?) = none := by
      decide +kernel
    rw [value?_of_shunned guards quiet (List.mem_append_left _ member), standard]
    exact unseeded key member
  refine ⟨absent, fun value found => (obeyed _ value found).titles rfl,
    fun p member conflicts other => ?_, ?_, ?_⟩
  · rw [← standard] at member
    have named : p.name ∈ (e.registry.parameters.filter (·.conflicts)).map (·.name) :=
      List.mem_map.mpr ⟨p, List.mem_filter.mpr ⟨member, conflicts⟩, rfl⟩
    have shunned : p.name ∈ e.registry.shunnedKeys :=
      List.mem_append_right _ (List.mem_filter.mpr ⟨named, by simpa using other⟩)
    rw [value?_of_shunned guards quiet shunned, Registry.find?_of_mem member, Option.bind_some]
  · have seed : (e.registry.find? "ordermethod").bind (·.seed?) =
        some (.list ["titlewithoutnamespace"]) := by
      rw [standard]
      decide +kernel
    have held := covers_run (e := e) e.start (Pair.prioritized pairs) "ordermethod"
    rw [value?_start, seed] at held
    obtain ⟨value, found⟩ := Option.isSome_iff_exists.mp (held rfl)
    rcases (obeyed _ value found).order rfl with seeded | ⟨methods, rfl⟩
    · exact .inl (found.trans (seeded.symm.trans seed))
    · exact .inr ⟨methods, found⟩
  · simp [Specification.totalCategoryCount, Specification.categoryCount, Specification.categories?,
      absent]

theorem runPairs_openReferences_titlematch :
    let e : Engine := ⟨.standard, {}, Site.host {}⟩
    let pairs := [("titlematch", "A%"), ("ordermethod", "none,title"), ("openreferences", "yes")]
    ∃ outcome, e.runPairs pairs = .ok outcome ∧
      outcome.spec.openReferences = .yes ∧
      outcome.spec.value? "title" = some (.titles { like := ["A%"] }) ∧
      outcome.spec.value? "ordermethod" = some (.list ["none", "title"]) ∧
      outcome.spec.value? "category" = none ∧ outcome.spec.totalCategoryCount = 0 := by
  intro e pairs
  cases ran : e.runPairs pairs with
  | error error =>
    have fine : (e.runPairs pairs).isOk = true := by
      rw [runPairs_of_named (by decide)]
      decide +kernel
    rw [ran] at fine
    cases fine
  | ok outcome =>
    have spec := (spec_of_runPairs ran).1
    have listed : outcome.spec.openReferences = .yes := by
      rw [spec]
      decide +kernel
    obtain ⟨absent, -, -, -, none⟩ := runPairs_openReferences rfl ran (by rw [listed]; rfl)
    refine ⟨outcome, rfl, listed, ?_, ?_, absent "category" (by simp), none⟩
    · rw [spec]
      decide +kernel
    · rw [spec]
      decide +kernel

end Engine

end WikiQuery

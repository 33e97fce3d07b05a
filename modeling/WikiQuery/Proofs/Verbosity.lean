import WikiQuery.Proofs.Law

/-!
The level of reports. It is kept in two places: a query holds it under `debug`, and the wiki is told it.
Both are set when a query is begun, and afterwards by one parameter alone, which sets both or neither. So
they agree after every run, and the last accepted pair that calls for a level has the last word on both.
-/

set_option autoImplicit false

namespace WikiQuery

/-- The words for the levels of reports. -/
def levelWords : List String :=
  ["0", "1", "2", "3", "4", "5"]

/-- A word for a level is read as that level. -/
theorem exists_level_of_mem_levelWords {word : String} (known : word ∈ levelWords) :
    ∃ level ≤ 5, Number.byte? word = some level := by
  have read : ∀ word ∈ levelWords, ∃ level ≤ 5, Number.byte? word = some level := by decide +kernel
  exact read word known

/-- The level of reports that a pair calls for, if it calls for one. -/
def Pair.level? (pair : Pair) : Option Nat :=
  if pair.1 = "debug" then Number.byte? (Text.trim pair.2) else none

/-- A session in which the query and the wiki have the same level of reports. -/
structure Session.Reports (s : Session) (level : Nat) : Prop where
  told : s.verbosity = some level
  stored : s.spec.value? "debug" = some (.int level)

namespace Reading

variable {p : Parameter} {text : String}

/-- A text is taken for a level if it is the word for one. -/
theorem isSome_debug_iff (named : p.namedValues = levelWords) :
    (debug p text).isSome = true ↔ Text.trim text ∈ levelWords := by
  simp only [debug, named, Bool.not_eq_true', List.contains_eq_mem, decide_eq_false_iff_not]
  split
  · rename_i unknown
    exact ⟨fun taken => absurd taken (by simp), fun known => absurd known unknown⟩
  · rename_i known
    obtain ⟨level, -, read⟩ := exists_level_of_mem_levelWords (not_not.mp known)
    simp [read, not_not.mp known]

/-- What is taken for a level is stored and told alike. -/
theorem exists_level_of_debug (named : p.namedValues = levelWords) {change : Change}
    (taken : debug p text = some change) :
    ∃ level ≤ 5, Number.byte? (Text.trim text) = some level ∧
      change = { writes := [("debug", .int level)], verbosity := some level } := by
  have known := (isSome_debug_iff named).mp (Option.isSome_iff_exists.mpr ⟨change, taken⟩)
  obtain ⟨level, small, read⟩ := exists_level_of_mem_levelWords known
  refine ⟨level, small, read, ?_⟩
  simpa [debug, named, known, read, eq_comm] using taken

end Reading

namespace Engine

variable {e : Engine} {s : Session} {name text : String} {level : Nat}

/-- One parameter sets the level of reports, and by its rules nothing else can. -/
private theorem level_writers : ∀ p ∈ Registry.standard.parameters,
    ("debug" ∈ p.footprint → p.name = "debug") ∧
      (p.name = "debug" → p.handler = some .debug ∧ p.namedValues = levelWords ∧ p.richness = 1 ∧
        p.permission = none) := by
  decide +kernel

/-- The parameter for the level of reports. -/
theorem change?_of_lookup_debug (standard : e.registry = .standard) {p : Parameter}
    (found : e.lookup "debug" = .ok p) (spec : Specification) (text : String) :
    p.namedValues = levelWords ∧
      Reading.change? e.settings e.host p spec text = Reading.debug p text := by
  have member := standard ▸ mem_of_lookup found
  obtain ⟨rules, named, -, -⟩ := (level_writers p member).2 (name_of_lookup found)
  exact ⟨named, by rw [Reading.change?, rules]; rfl⟩

/-- A level of reports is accepted where it is to be had, if its text is the word for it. -/
theorem answer_debug_eq_none_iff (standard : e.registry = .standard) (s : Session) (text : String) :
    (e.process s "debug" text).2 = none ↔
      1 ≤ e.settings.richness ∧ Text.trim text ∈ levelWords := by
  have known : ∃ p ∈ Registry.standard.parameters, p.name = "debug" := by decide +kernel
  obtain ⟨p, member, titled⟩ := known
  obtain ⟨rules, named, rich, free⟩ := (level_writers p member).2 titled
  have listed : e.registry.find? "debug" = some p := by
    rw [standard, ← titled]
    exact Registry.find?_of_mem member
  by_cases enough : 1 ≤ e.settings.richness
  · obtain ⟨found, reads⟩ := lookup_of_handler (by decide) listed rules (rich ▸ enough) free
    rw [answer_process found, reads]
    simp only [enough, true_and, ← Reading.isSome_debug_iff named]
    show (if (Reading.debug p text).isSome then none else _) = none ↔ _
    split
    · simp_all
    · simp_all
  · have missing : ∀ q, e.lookup "debug" ≠ .ok q := by
      intro q found
      obtain ⟨-, same, level, -⟩ := lookup_eq_ok_iff.mp found
      obtain rfl := Option.some.inj (listed.symm.trans same)
      exact enough (rich ▸ level)
    cases found : e.lookup "debug" with
    | ok q => exact absurd found (missing q)
    | error refusal => simp [process_of_lookup_error found, enough]

theorem verbosity_process_of_refused {refusal : ParameterError}
    (refused : (e.process s name text).2 = some refusal) :
    (e.process s name text).1.verbosity = s.verbosity := by
  cases found : e.lookup name with
  | error error => rw [process_of_lookup_error found]
  | ok p =>
    cases read : Reading.change? e.settings e.host p s.spec text with
    | none => rw [process_of_refused found read]
    | some change =>
      rw [process_of_accepted found read] at refused
      cases refused

/-- An accepted pair brings the level that it calls for to both places, and if it calls for none, it
changes neither. -/
theorem reports_of_accepted (standard : e.registry = .standard) (reports : s.Reports level)
    (taken : (e.process s name text).2 = none) :
    (e.process s name text).1.Reports ((Pair.level? (name, text)).getD level) ∧
      ∀ called ∈ Pair.level? (name, text), called ≤ 5 := by
  obtain ⟨p, change, found, read, made⟩ := exists_change_of_answer taken
  by_cases named : name = "debug"
  · subst named
    obtain ⟨words, rules⟩ := change?_of_lookup_debug standard found s.spec text
    obtain ⟨called, small, word, rfl⟩ := Reading.exists_level_of_debug words (rules.symm.trans read)
    have calls : Pair.level? ("debug", text) = some called := word
    rw [calls, made]
    refine ⟨⟨rfl, ?_⟩, ?_⟩
    · exact Specification.value?_write_singleton _ _ _
    · rintro _ ⟨rfl⟩
      exact small
  · have untouched : "debug" ∉ e.footprint name := by
      intro touched
      obtain ⟨q, member, titled, writes⟩ := exists_of_mem_footprint touched
      exact named (titled ▸ (level_writers q (standard ▸ member)).1 writes)
    have silent : Pair.level? (name, text) = none := if_neg named
    rw [silent]
    refine ⟨⟨?_, ?_⟩, by simp⟩
    · exact (verbosity_process_of_not_mem untouched).trans reports.told
    · exact (value?_process_of_not_mem untouched).trans reports.stored

theorem reports_of_refused (reports : s.Reports level) {refusal : ParameterError}
    (refused : (e.process s name text).2 = some refusal) :
    (e.process s name text).1.Reports level :=
  ⟨(verbosity_process_of_refused refused).trans reports.told,
    (value?_process_of_refused refused _).trans reports.stored⟩

/-- Along a run both places have the level that was called for last. -/
theorem reports_run (standard : e.registry = .standard) (reports : s.Reports level)
    (small : level ≤ 5) (pairs : List Pair) :
    ∃ last ≤ 5, (e.run s pairs).Reports last ∧
      last = ((e.accepted s pairs).filterMap Pair.level?).getLast?.getD level := by
  induction pairs generalizing s level with
  | nil => exact ⟨level, small, reports, rfl⟩
  | cons pair pairs ih =>
    rw [run_cons]
    cases answer : (e.process s pair.1 pair.2).2 with
    | none =>
      obtain ⟨kept, bound⟩ := reports_of_accepted standard reports answer
      rw [accepted_cons_of_none answer]
      cases calls : pair.level? with
      | none =>
        rw [calls] at kept
        rw [List.filterMap_cons_none calls]
        exact ih kept small
      | some called =>
        rw [calls] at kept
        rw [List.filterMap_cons_some calls, List.getLast?_cons, Option.getD_some]
        exact ih kept (bound called calls)
    | some refusal =>
      rw [accepted_cons_of_some answer]
      exact ih (reports_of_refused reports answer) small

theorem reports_start (standard : e.registry = .standard) : e.start.Reports 2 := by
  have seeded : (Registry.standard.find? "debug").bind (·.seed?) = some (.int 2) := by
    decide +kernel
  have stored : e.start.spec.value? "debug" = some (.int 2) := by
    rw [value?_start, standard, seeded]
  refine ⟨?_, stored⟩
  have begun : (Specification.ofRegistry e.registry).value? "debug" = some (.int 2) := stored
  simp [start, initialVerbosity?, Specification.integer?, begun]

/-- After every run the wiki has been told the very level that the query holds, one of the six that
there are. It is the level of the last accepted pair that calls for one, and a fresh query has the
level 2; a pair calls for a level and is accepted if its text is the word for it. -/
theorem debug_run (standard : e.registry = .standard) (pairs : List Pair) :
    (∃ level ≤ 5, (e.run e.start pairs).verbosity = some level ∧
      (e.run e.start pairs).spec.value? "debug" = some (.int (level : Nat)) ∧
      level = ((e.accepted e.start pairs).filterMap Pair.level?).getLast?.getD 2) ∧
    ∀ s text, (e.process s "debug" text).2 = none ↔
      1 ≤ e.settings.richness ∧ Text.trim text ∈ ["0", "1", "2", "3", "4", "5"] := by
  obtain ⟨level, small, reports, last⟩ :=
    reports_run standard (reports_start standard) (by decide) pairs
  exact ⟨⟨level, small, reports.told, reports.stored, last⟩, answer_debug_eq_none_iff standard⟩

theorem debug_run_refused :
    let e : Engine := ⟨.standard, {}, Site.host {}⟩
    let pairs := [("debug", " 4\n"), ("debug", "6"), ("Debug", "1"), ("debug", "+3"), ("mode", "inline"),
      ("debug", "٣")]
    e.registry = .standard ∧ (e.run e.start pairs).verbosity = some 4 ∧
      (e.run e.start pairs).spec.value? "debug" = some (.int 4) ∧
      (e.process e.start "debug" "03").2 ≠ none := by
  intro e pairs
  obtain ⟨⟨level, -, told, stored, last⟩, answers⟩ := debug_run (e := e) rfl pairs
  have called : ((e.accepted e.start pairs).filterMap Pair.level?).getLast?.getD 2 = 4 := by
    decide +kernel
  obtain rfl := last.trans called
  refine ⟨rfl, told, stored, fun taken => ?_⟩
  have word := ((answers e.start "03").mp taken).2
  exact absurd word (by decide +kernel)

end Engine

end WikiQuery

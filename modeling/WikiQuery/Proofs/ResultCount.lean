import WikiQuery.Proofs.Law
import WikiQuery.Settings.Document

/-!
The number of pages that a query lists at most. Two parameters write it. Both ask for a positive number
first and hold it down to the ceiling of the settings afterwards, so what is stored is within the
ceiling; it is positive exactly if there is no ceiling or the ceiling is positive itself.
-/

set_option autoImplicit false

namespace WikiQuery

namespace Settings

variable {s : Settings} {n : Int}

theorem clampResults_le (limited : s.unlimitedResults = false) (n : Int) :
    s.clampResults n ≤ s.maxResults := by
  rw [clampResults, limited, if_neg (by decide)]
  exact Int.min_le_right n s.maxResults

/-- A positive number stays positive if the ceiling is, or if there is none. -/
theorem one_le_clampResults_iff (positive : 0 < n) :
    1 ≤ s.clampResults n ↔ s.unlimitedResults = true ∨ 1 ≤ s.maxResults := by
  unfold clampResults
  split
  · rename_i unlimited
    exact ⟨fun _ => .inl unlimited, fun _ => positive⟩
  · rename_i limited
    rw [Int.le_min]
    constructor
    · rintro ⟨-, ceiling⟩
      exact .inr ceiling
    · rintro (unlimited | ceiling)
      · exact absurd unlimited limited
      · exact ⟨positive, ceiling⟩

/-- What may stand under a key as far as the number of pages is concerned: a positive number that was
asked for, held within the settings. -/
def Counted (s : Settings) (key : String) (value : Value) : Prop :=
  key = "count" → ∃ asked : Int, 0 < asked ∧ value = .int (s.clampResults asked)

end Settings

namespace Reading

variable {settings : Settings} {host : Host} {text : String}

theorem exists_of_resultCount? {n : Int} (h : resultCount? settings text = some n) :
    ∃ asked : Int, 0 < asked ∧ n = settings.clampResults asked := by
  obtain ⟨asked, read, rfl⟩ := Option.map_eq_some_iff.mp h
  rw [Option.filter_eq_some_iff, decide_eq_true_eq] at read
  exact ⟨asked, read.2, rfl⟩

theorem counted_count :
    Makes (fun change => ∀ w ∈ change.writes, settings.Counted w.1 w.2) (count settings text) := by
  refine makes_map fun n read w written _ => ?_
  obtain rfl := List.mem_singleton.mp written
  obtain ⟨asked, positive, rfl⟩ := exists_of_resultCount? read
  exact ⟨asked, positive, rfl⟩

theorem counted_scroll :
    Makes (fun change => ∀ w ∈ change.writes, settings.Counted w.1 w.2)
      (scroll settings host text) := by
  refine makes_map fun enabled _ w written counts => ?_
  cases enabled with
  | false =>
    obtain rfl := List.mem_singleton.mp written
    simp at counts
  | true =>
    simp only [scrollWrites, if_true, List.mem_cons, List.mem_append, Option.mem_toList,
      Option.map_eq_some_iff] at written
    rcases written with rfl | ((⟨_, -, rfl⟩ | ⟨_, -, rfl⟩) | ⟨_, -, rfl⟩) | ⟨n, read, rfl⟩
    · simp at counts
    · simp at counts
    · simp at counts
    · simp at counts
    · obtain ⟨asked, positive, rfl⟩ := exists_of_resultCount? read
      exact ⟨asked, positive, rfl⟩

end Reading

/-- What is relied on about a table of parameters: who writes the number of pages, which no query starts
with. -/
structure Registry.Counts (r : Registry) : Prop where
  writers : ∀ p ∈ r.parameters, "count" ∈ p.footprint →
    p.handler = some .count ∨ p.handler = some .scroll
  unseeded : ∀ p ∈ r.parameters, p.name = "count" → p.seed? = none

theorem Registry.counts_standard : Registry.standard.Counts where
  writers := by decide +kernel
  unseeded := by decide +kernel

namespace Engine

variable {e : Engine}

theorem upholds_counted (counts : e.registry.Counts) : e.Upholds e.settings.Counted where
  seeds := by
    intro p member value seeded named
    rw [counts.unseeded p member named] at seeded
    cases seeded
  changes := by
    intro p member spec _ _ text change taken w written named
    have touched := (Reading.writes_change? change taken).writes w written
    rw [named] at touched
    rcases counts.writers p member touched with rules | rules
    · rw [Reading.change?, rules] at taken
      exact Reading.counted_count change taken w written named
    · rw [Reading.change?, rules] at taken
      exact Reading.counted_scroll change taken w written named

/-- A stored number of pages does not exceed the ceiling, unless there is none, and it is positive if and
only if there is no ceiling or a positive one. -/
theorem count_run (standard : e.registry = .standard) (pairs : List Pair) {value : Value}
    (stored : (e.run e.start pairs).spec.value? "count" = some value) :
    ∃ n : Int, value = .int n ∧
      (e.settings.unlimitedResults = false → n ≤ e.settings.maxResults) ∧
      (1 ≤ n ↔ e.settings.unlimitedResults = true ∨ 1 ≤ e.settings.maxResults) := by
  have counts : e.registry.Counts := standard ▸ Registry.counts_standard
  obtain ⟨asked, positive, rfl⟩ := (upholds_counted counts).run pairs "count" value stored rfl
  exact ⟨_, rfl, fun limited => Settings.clampResults_le limited asked,
    Settings.one_le_clampResults_iff positive⟩

theorem count_run_scroll :
    let site : Site := { request := Std.ExtTreeMap.ofList [("DPL_count", "90")] compare }
    let e : Engine := ⟨.standard, { maxResults := 50 }, site.host⟩
    let pairs := [("count", "20"), ("count", "0"), ("scroll", "yes"), ("count", "-3")]
    e.registry = .standard ∧ (e.run e.start pairs).spec.value? "count" = some (.int 50) ∧
      (50 ≤ e.settings.maxResults) ∧ (1 : Int) ≤ 50 := by
  intro site e pairs
  have stored : (e.run e.start pairs).spec.value? "count" = some (.int 50) := by decide +kernel
  obtain ⟨n, same, within, positive⟩ := count_run (e := e) rfl pairs stored
  obtain rfl := Value.int.inj same
  exact ⟨rfl, stored, within rfl, positive.mpr (.inr (by decide))⟩

/-- The environment may give a ceiling of zero, and then the number that is stored is zero. -/
theorem count_run_zero :
    let environment := fun name => if name = Settings.maxResultsVariable then some "0" else none
    ∃ c settings, Configuration.load "pagelist.toml" .missing = .ok c ∧
      c.settings.withEnvironment environment = (settings, none) ∧
      let e : Engine := ⟨.standard, settings, Site.host {}⟩
      (e.run e.start [("count", "20")]).spec.value? "count" = some (.int 0) := by
  refine ⟨{}, { maxResults := 0 }, rfl, ?_, ?_⟩
  · decide +kernel
  · decide +kernel

end Engine

end WikiQuery

import WikiQuery.Proofs.Rendering

/-!
How the reading of a directive is ended. A name can be barred: it is not known where no unknown one
is let through, or it is to be had but the caller lacks its capability. The first barred name in the
order of reading ends the directive, and neither the texts nor the other pairs have a say in it.
-/

set_option autoImplicit false

namespace WikiQuery

/-- The order of reading puts the names of pairs in order, whatever their texts are. -/
theorem Pair.map_fst_prioritized (pairs : List Pair) :
    (prioritized pairs).map (·.1) =
      (priorityNames.flatMap fun name => (pairs.map (·.1)).filter fun other => other == name) ++
        (pairs.map (·.1)).filter fun other => !priorityNames.contains other := by
  rw [prioritized, List.map_append, List.map_flatMap]
  simp only [List.filter_map, Function.comp_def]

namespace Engine

variable {e : Engine} {name : String} {names : List String} {pairs others : List Pair}
  {error : DirectiveError}

/-- What there is against a name, and the error that it ends a directive with. -/
inductive Bars (e : Engine) (name : String) : DirectiveError → Prop
  | unknown (missing : e.registry.find? name = none)
      (strict : e.settings.unknownParameters = .abort) : Bars e name (.unknownParameter name)
  | unauthorized {p : Parameter} {capability : String} (known : e.registry.find? name = some p)
      (rich : p.richness ≤ e.settings.richness) (needed : p.permission = some capability)
      (lacking : e.host.hasCapability capability = false) :
      Bars e name (.parameter (.authorization name capability))

/-- The first barred name of a list is barred with this error. -/
def FirstBar (e : Engine) (names : List String) (error : DirectiveError) : Prop :=
  ∃ before name after, names = before ++ name :: after ∧
    (∀ other ∈ before, ∀ error, ¬e.Bars other error) ∧ e.Bars name error

private theorem bars_of_ending? (named : name ≠ "") (h : e.ending? name = some error) :
    e.Bars name error := by
  unfold ending? at h
  cases found : e.lookup name with
  | ok p => simp [found] at h
  | error refusal =>
    simp only [found] at h
    rcases lookup_eq_error_cases found with
      ⟨nameless, -⟩ | ⟨missing, rfl⟩ | ⟨p, -, -, rfl⟩ |
        ⟨p, capability, known, rich, needed, lacking, rfl⟩
    · exact absurd nameless named
    · cases strict : e.settings.unknownParameters with
      | warn => simp [fatal?, strict] at h
      | abort =>
        simp only [fatal?, strict, Option.some.injEq] at h
        exact h ▸ .unknown missing strict
    · cases h
    · obtain rfl := Option.some.inj h
      rw [Registry.name_of_find? known]
      exact .unauthorized known rich needed lacking

private theorem ending?_of_bars (named : name ≠ "") (h : e.Bars name error) :
    e.ending? name = some error := by
  have inhabited : name.isEmpty = false := by simpa using named
  cases h with
  | unknown missing strict => simp [ending?, lookup, inhabited, missing, fatal?, strict]
  | unauthorized known rich needed lacking =>
    have available := Nat.not_lt.mpr rich
    simp [ending?, lookup, inhabited, known, available, needed, lacking, fatal?,
      Registry.name_of_find? known]

theorem ending?_eq_some_iff (named : name ≠ "") :
    e.ending? name = some error ↔ e.Bars name error :=
  ⟨bars_of_ending? named, ending?_of_bars named⟩

theorem ending?_eq_none_iff (named : name ≠ "") :
    e.ending? name = none ↔ ∀ error, ¬e.Bars name error := by
  constructor
  · intro free error barred
    have ends := ending?_of_bars named barred
    rw [free] at ends
    cases ends
  · intro free
    cases ends : e.ending? name with
    | none => rfl
    | some error => exact absurd (bars_of_ending? named ends) (free error)

/-- Pairs that have names are read up to the first barred one. -/
theorem processAll_eq_error_iff_firstBar (s : Session) (named : ∀ pair ∈ pairs, pair.1 ≠ "") :
    e.processAll s pairs = .error error ↔ e.FirstBar (pairs.map (·.1)) error := by
  have named' : ∀ name ∈ pairs.map (·.1), name ≠ "" := by
    intro name member
    obtain ⟨pair, given, rfl⟩ := List.mem_map.mp member
    exact named pair given
  have first : pairs.findSome? (fun pair => e.ending? pair.1) =
      (pairs.map (·.1)).findSome? e.ending? := by
    rw [List.findSome?_map]
    rfl
  rw [processAll_eq_error_iff, first, List.findSome?_eq_some_iff]
  constructor
  · rintro ⟨before, name, after, split, ends, free⟩
    have here : name ∈ pairs.map (·.1) := by simp [split]
    refine ⟨before, name, after, split, fun other member => ?_, ?_⟩
    · have there : other ∈ pairs.map (·.1) := split ▸ List.mem_append_left _ member
      exact (ending?_eq_none_iff (named' other there)).mp (free other member)
    · exact (ending?_eq_some_iff (named' name here)).mp ends
  · rintro ⟨before, name, after, split, free, barred⟩
    have here : name ∈ pairs.map (·.1) := by simp [split]
    refine ⟨before, name, after, split, ?_, fun other member => ?_⟩
    · exact (ending?_eq_some_iff (named' name here)).mpr barred
    · have there : other ∈ pairs.map (·.1) := split ▸ List.mem_append_left _ member
      exact (ending?_eq_none_iff (named' other there)).mpr (free other member)

theorem exists_firstBar_iff :
    (∃ error, e.FirstBar names error) ↔ ∃ name ∈ names, ∃ error, e.Bars name error := by
  constructor
  · rintro ⟨error, before, name, after, rfl, -, barred⟩
    exact ⟨name, by simp, error, barred⟩
  · intro barred
    induction names with
    | nil => simp at barred
    | cons first names ih =>
      by_cases here : ∃ error, e.Bars first error
      · obtain ⟨error, here⟩ := here
        exact ⟨error, [], first, names, rfl, by simp, here⟩
      · obtain ⟨name, member, error, there⟩ := barred
        rcases List.mem_cons.mp member with rfl | later
        · exact absurd ⟨error, there⟩ here
        · obtain ⟨error', before, name', after, rfl, free, found⟩ := ih ⟨name, later, error, there⟩
          refine ⟨error', first :: before, name', after, rfl, fun other among => ?_, found⟩
          rcases List.mem_cons.mp among with rfl | among
          · exact fun error barred => here ⟨error, barred⟩
          · exact free other among

/-- The judgement of a whole query is never that a single parameter is refused. -/
theorem inconsistency?_ne_parameter (settings : Settings) (spec : Specification)
    (refusal : ParameterError) : inconsistency? settings spec ≠ some (.parameter refusal) := by
  simp only [inconsistency?]
  repeat' split
  all_goals simp

/-- A directive whose pairs have names is refused for a barred name, or for what its query comes to.
-/
theorem runPairs_eq_error_cases (named : ∀ pair ∈ pairs, pair.1 ≠ "")
    (h : e.runPairs pairs = .error error) :
    e.processAll e.start (Pair.prioritized pairs) = .error error ∨
      (∀ error, e.processAll e.start (Pair.prioritized pairs) ≠ .error error) ∧
        inconsistency? e.settings (e.run e.start (Pair.prioritized pairs)).spec = some error := by
  rw [runPairs_of_named named] at h
  cases read : e.processAll e.start (Pair.prioritized pairs) with
  | error ended =>
    simp only [runSorted, read, Except.error.injEq] at h
    exact .inl (congrArg Except.error h)
  | ok result =>
    obtain ⟨after, warnings⟩ := result
    have reached := (processAll_eq_ok_iff.mp read).2.1
    rw [runSorted_of_processAll read] at h
    refine .inr ⟨by simp, ?_⟩
    rw [← reached]
    cases judged : inconsistency? e.settings after.spec with
    | none => simp [judged] at h
    | some senseless =>
      simp only [judged, Except.error.injEq] at h
      rw [h]

/-- The pairs of a directive are read in order up to the first barred name among them. -/
theorem processAll_prioritized_eq_error_iff (named : ∀ pair ∈ pairs, pair.1 ≠ "") :
    e.processAll e.start (Pair.prioritized pairs) = .error error ↔
      e.FirstBar ((Pair.prioritized pairs).map (·.1)) error :=
  processAll_eq_error_iff_firstBar e.start fun pair member =>
    named pair ((Pair.prioritized_perm pairs).subset member)

theorem exists_processAll_eq_error_iff (named : ∀ pair ∈ pairs, pair.1 ≠ "") :
    (∃ error, e.processAll e.start (Pair.prioritized pairs) = .error error) ↔
      ∃ pair ∈ pairs, ∃ error, e.Bars pair.1 error := by
  have given : ∀ name, name ∈ (Pair.prioritized pairs).map (·.1) ↔ ∃ pair ∈ pairs, pair.1 = name :=
    fun name => (((Pair.prioritized_perm pairs).map (·.1)).mem_iff).trans List.mem_map
  simp only [processAll_prioritized_eq_error_iff named, exists_firstBar_iff, given]
  constructor
  · rintro ⟨-, ⟨pair, member, rfl⟩, barred⟩
    exact ⟨pair, member, barred⟩
  · rintro ⟨pair, member, barred⟩
    exact ⟨pair.1, ⟨pair, member, rfl⟩, barred⟩

/-- Pairs of the same names are ended alike, whatever their texts are. -/
theorem processAll_eq_error_congr (named : ∀ pair ∈ pairs, pair.1 ≠ "")
    (same : others.map (·.1) = pairs.map (·.1)) :
    e.processAll e.start (Pair.prioritized others) = .error error ↔
      e.processAll e.start (Pair.prioritized pairs) = .error error := by
  have named' : ∀ pair ∈ others, pair.1 ≠ "" := by
    intro pair member
    have listed : pair.1 ∈ pairs.map (·.1) := same ▸ List.mem_map_of_mem member
    obtain ⟨other, given, equal⟩ := List.mem_map.mp listed
    exact equal ▸ named other given
  rw [processAll_prioritized_eq_error_iff named', processAll_prioritized_eq_error_iff named,
    Pair.map_fst_prioritized, same, ← Pair.map_fst_prioritized]

theorem runPairs_of_processAll_eq_error (named : ∀ pair ∈ pairs, pair.1 ≠ "")
    (read : e.processAll e.start (Pair.prioritized pairs) = .error error) :
    e.runPairs pairs = .error error := by
  rw [runPairs_of_named named]
  simp only [runSorted, read]

/-- A text that is refused for a single parameter has a barred name. -/
theorem exists_bars_of_runText {source : String} {refusal : ParameterError}
    (refused : e.runText source = .error (.parameter refusal)) :
    ∃ name, e.Bars name (.parameter refusal) := by
  have named : ∀ pair ∈ Pair.ofText source, pair.1 ≠ "" := fun pair member =>
    (Pair.clean_of_mem_ofText member).named
  rcases runPairs_eq_error_cases named refused with read | ⟨-, senseless⟩
  · obtain ⟨-, name, -, -, -, barred⟩ := (processAll_prioritized_eq_error_iff named).mp read
    exact ⟨name, barred⟩
  · exact absurd senseless (inconsistency?_ne_parameter _ _ _)

private theorem permission_standard :
    ∀ p ∈ Registry.standard.parameters, ∀ capability ∈ p.permission,
      p.richness = 4 ∧ (p.name, capability) ∈ [("updaterules", "dpl_param_update_rules"),
        ("deleterules", "dpl_param_delete_rules")] := by
  decide +kernel

/-- What the standard table asks a capability for. -/
theorem Bars.of_standard (standard : e.registry = .standard) {capability : String}
    (barred : e.Bars name (.parameter (.authorization name capability))) :
    (name, capability) ∈ [("updaterules", "dpl_param_update_rules"),
        ("deleterules", "dpl_param_delete_rules")] ∧
      4 ≤ e.settings.richness ∧ e.host.hasCapability capability = false := by
  cases barred with
  | unauthorized known rich needed lacking =>
    rw [standard] at known
    obtain ⟨level, listed⟩ := permission_standard _ (Registry.mem_of_find? known) capability needed
    rw [Registry.name_of_find? known] at listed
    exact ⟨listed, level ▸ rich, lacking⟩

/-- Whether a directive is ended before all its pairs are read, and with which error, is decided by
the names of its pairs in the order of reading: the first barred one ends it. If none is barred, only
what the pairs come to can be wrong. No text of a directive is malformed for the standard table, and
there only the two parameters for rules call for a capability. -/
theorem runPairs_ends (e : Engine) :
    (∀ pairs : List Pair, (∀ pair ∈ pairs, pair.1 ≠ "") →
      ((∃ error, e.processAll e.start (Pair.prioritized pairs) = .error error) ↔
        ∃ pair ∈ pairs, ∃ error, e.Bars pair.1 error) ∧
      (∀ error, e.processAll e.start (Pair.prioritized pairs) = .error error ↔
        e.FirstBar ((Pair.prioritized pairs).map (·.1)) error) ∧
      (∀ error, e.processAll e.start (Pair.prioritized pairs) = .error error →
        e.runPairs pairs = .error error) ∧
      (∀ error, e.runPairs pairs = .error error →
        e.processAll e.start (Pair.prioritized pairs) = .error error ∨
          (∀ error, e.processAll e.start (Pair.prioritized pairs) ≠ .error error) ∧
            inconsistency? e.settings (e.run e.start (Pair.prioritized pairs)).spec = some error) ∧
      ∀ others : List Pair, others.map (·.1) = pairs.map (·.1) → ∀ error,
        e.processAll e.start (Pair.prioritized others) = .error error ↔
          e.processAll e.start (Pair.prioritized pairs) = .error error) ∧
    (e.registry = .standard → ∀ source,
      (∀ cause, e.runText source ≠ .error (.parameter (.structural cause))) ∧
      ∀ name capability,
        e.runText source = .error (.parameter (.authorization name capability)) →
          (name, capability) ∈ [("updaterules", "dpl_param_update_rules"),
            ("deleterules", "dpl_param_delete_rules")] ∧
          4 ≤ e.settings.richness ∧ e.host.hasCapability capability = false) := by
  refine ⟨fun pairs named => ⟨exists_processAll_eq_error_iff named, ?_, ?_, ?_, ?_⟩,
    fun standard source => ⟨fun cause refused => ?_, fun name capability refused => ?_⟩⟩
  · exact fun error => processAll_prioritized_eq_error_iff named
  · exact fun error => runPairs_of_processAll_eq_error named
  · exact fun error => runPairs_eq_error_cases named
  · exact fun others same error => processAll_eq_error_congr named same
  · obtain ⟨name, barred⟩ := exists_bars_of_runText refused
    cases barred
  · obtain ⟨other, barred⟩ := exists_bars_of_runText refused
    obtain rfl : name = other := by
      cases barred
      rfl
    exact barred.of_standard standard

theorem runPairs_ends_deleterules :
    let e : Engine :=
      ⟨.standard, { richness := 4, unknownParameters := .abort }, Site.host {}⟩
    let lacking : DirectiveError :=
      .parameter (.authorization "deleterules" "dpl_param_delete_rules")
    let pairs := [("mode", "bogus"), ("deleterules", "all"), ("colour", "red"), ("category", "A")]
    e.FirstBar ["category", "mode", "deleterules", "colour"] lacking ∧
      e.runPairs pairs = .error lacking ∧
      e.processAll e.start (Pair.prioritized (pairs.map fun pair => (pair.1, ""))) =
        .error lacking ∧
      e.runText "deleterules=all" = .error lacking ∧
      ("deleterules", "dpl_param_delete_rules") ∈ [("updaterules", "dpl_param_update_rules"),
        ("deleterules", "dpl_param_delete_rules")] ∧
      e.host.hasCapability "dpl_param_delete_rules" = false := by
  intro e lacking pairs
  obtain ⟨ends, texts⟩ := runPairs_ends e
  obtain ⟨-, first, whole, -, alike⟩ := ends pairs (by decide)
  have read : e.processAll e.start (Pair.prioritized pairs) = .error lacking := by decide +kernel
  have refused : e.runText "deleterules=all" = .error lacking := by decide +kernel
  obtain ⟨-, called⟩ := texts rfl "deleterules=all"
  obtain ⟨listed, -, withheld⟩ := called _ _ refused
  have unread := (alike (pairs.map fun pair => (pair.1, "")) rfl lacking).mpr read
  exact ⟨(first lacking).mp read, whole lacking read, unread, refused, listed, withheld⟩

end Engine

end WikiQuery

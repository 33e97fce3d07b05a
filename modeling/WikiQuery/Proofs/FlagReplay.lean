import WikiQuery.Proofs.Domain

/-!
The tables of links that are reset or eliminated. Of all the words that were accepted for them, the last
one that concerns a table decides about it, wherever the lines were divided.
-/

set_option autoImplicit false

namespace WikiQuery

namespace Reading

variable {words : List String} {flags : Std.ExtTreeMap String Bool} {word flag : String}

/-- The words of a line of flags. -/
def flagWords (text : String) : List String :=
  (items ',' (Text.lower text)).filter fun word => !word.isEmpty

/-- Whether a flag is set after some words: the last one decides that is its name or stands for all
flags or for none of them. -/
def flagAfter (words : List String) (flag : String) : Bool :=
  match (words.filter fun word => [flag, "all", "none"].contains word).getLast? with
  | some word => [flag, "all"].contains word
  | none => false

/-- The flags are those of the tables of links, each as some words leave it. -/
def Reflects (words : List String) (flags : Std.ExtTreeMap String Bool) : Prop :=
  ∀ flag, flags[flag]? = if flag ∈ linkTables then some (flagAfter words flag) else none

theorem flagAfter_concat (words : List String) (word flag : String) :
    flagAfter (words ++ [word]) flag =
      if word ∈ [flag, "all", "none"] then decide (word ∈ [flag, "all"])
      else flagAfter words flag := by
  unfold flagAfter
  by_cases concerns : word ∈ [flag, "all", "none"]
  · have kept : [word].filter (fun word => [flag, "all", "none"].contains word) = [word] :=
      List.filter_eq_self.mpr (by simpa using concerns)
    rw [List.filter_append, kept, List.getLast?_concat, if_pos concerns]
    exact List.contains_eq_mem word _
  · have dropped : [word].filter (fun word => [flag, "all", "none"].contains word) = [] :=
      List.filter_eq_nil_iff.mpr (by simpa using concerns)
    rw [List.filter_append, dropped, List.append_nil, if_neg concerns]

theorem getElem?_insertMany_linkTables (flags : Std.ExtTreeMap String Bool) (state : Bool)
    (flag : String) :
    (flags.insertMany (linkTables.map fun flag => (flag, state)))[flag]? =
      if flag ∈ linkTables then some state else flags[flag]? := by
  by_cases known : flag ∈ linkTables
  · have distinct : linkTables.Pairwise fun a b => ¬compare a b = .eq := by decide +kernel
    have entry : (flag, state) ∈ linkTables.map fun flag => (flag, state) :=
      List.mem_map_of_mem known
    rw [if_pos known]
    exact Std.ExtTreeMap.getElem?_insertMany_list_of_mem Std.ReflCmp.compare_self
      (List.pairwise_map.mpr distinct) entry
  · have fresh : ((linkTables.map fun flag => (flag, state)).map Prod.fst).contains flag =
        false := by
      simpa [List.map_map] using known
    rw [if_neg known, Std.ExtTreeMap.getElem?_insertMany_list_of_contains_eq_false fresh]

/-- A word for all flags or for none of them writes to every flag. -/
theorem getElem?_setFlag_of_group (group : isFlagGroup word = true) (flag : String) :
    (setFlag linkTables flags word)[flag]? =
      if flag ∈ linkTables then some (word == "all") else flags[flag]? := by
  rw [setFlag, if_pos group, getElem?_insertMany_linkTables]

theorem getElem?_setFlag_of_single (single : isFlagGroup word = false) (flag : String) :
    (setFlag linkTables flags word)[flag]? =
      if word = flag then some true else flags[flag]? := by
  rw [setFlag, if_neg (by simp [single]), Std.ExtTreeMap.getElem?_insert]
  simp only [Std.LawfulEqCmp.compare_eq_iff_eq]

theorem Reflects.setFlag (h : Reflects words flags) (known : word ∈ Registry.linkTableFlags) :
    Reflects (words ++ [word]) (setFlag linkTables flags word) := by
  intro flag
  rw [flagAfter_concat]
  cases group : isFlagGroup word with
  | true =>
    rw [getElem?_setFlag_of_group group, h flag]
    have concerns : word ∈ [flag, "all", "none"] := by
      have general : word = "all" ∨ word = "none" := by simpa [isFlagGroup] using group
      simpa using .inr general
    by_cases mine : flag ∈ linkTables
    · have other : word ≠ flag := by
        rintro rfl
        have particular : ∀ flag ∈ linkTables, isFlagGroup flag = false := by decide
        exact Bool.false_ne_true ((particular word mine).symm.trans group)
      rw [if_pos mine, if_pos mine, if_pos concerns]
      simp [other, Bool.beq_eq_decide_eq]
    · simp only [if_neg mine]
  | false =>
    have tables : ∀ word ∈ Registry.linkTableFlags, isFlagGroup word = false →
        word ∈ linkTables := by
      decide +kernel
    have mine := tables word known group
    rw [getElem?_setFlag_of_single group, h flag]
    have particular : word ≠ "all" ∧ word ≠ "none" := by simpa [isFlagGroup] using group
    by_cases same : word = flag
    · subst same
      simp [mine]
    · simp [same, particular]

theorem Reflects.foldl_setFlag {more : List String} (h : Reflects words flags)
    (known : ∀ word ∈ more, word ∈ Registry.linkTableFlags) :
    Reflects (words ++ more) (more.foldl (Reading.setFlag linkTables) flags) := by
  induction more generalizing words flags with
  | nil => rwa [List.append_nil]
  | cons word more ih =>
    have first := h.setFlag (known word List.mem_cons_self)
    have rest := ih first fun other later => known other (List.mem_cons_of_mem word later)
    rwa [List.append_assoc] at rest

theorem reflects_noFlags :
    ∃ flags, Registry.noFlags Registry.linkTableFlags = .flags flags ∧ Reflects [] flags := by
  refine ⟨_, rfl, fun flag => ?_⟩
  have tables : (Registry.linkTableFlags.filter fun name => !Registry.flagGroups.contains name) =
      linkTables := by
    decide +kernel
  rw [tables, Std.ExtTreeMap.ofList_eq_insertMany_empty, getElem?_insertMany_linkTables]
  rfl

variable {p : Parameter} {spec : Specification} {text : String}

/-- A line is accepted if it has words and all of them are known. -/
theorem flagSet_eq_some_iff {change : Change} (named : p.namedValues = Registry.linkTableFlags) :
    flagSet p spec text = some change ↔
      flagWords text ≠ [] ∧ (∀ word ∈ flagWords text, word ∈ Registry.linkTableFlags) ∧
        change = { writes := [(p.name, .flags ((flagWords text).foldl (setFlag linkTables)
          ((spec.flags? p.name).getD ∅)))] } := by
  have tables : (Registry.linkTableFlags.filter fun flag => !isFlagGroup flag) = linkTables := by
    decide +kernel
  have refused : ((flagWords text).isEmpty || !(flagWords text).all p.namedValues.contains) = false ↔
      flagWords text ≠ [] ∧ ∀ word ∈ flagWords text, word ∈ Registry.linkTableFlags := by
    simp [named]
  rw [← and_assoc, ← refused, flagSet, ← flagWords]
  cases (flagWords text).isEmpty || !(flagWords text).all p.namedValues.contains with
  | true => simp
  | false =>
    simp only [Bool.false_eq_true, if_false, Option.some.injEq, named, tables, true_and]
    exact eq_comm

/-- An accepted line goes on from the words before it. -/
theorem reflects_flagSet {change : Change} (named : p.namedValues = Registry.linkTableFlags)
    (found : spec.value? p.name = some (.flags flags)) (reflects : Reflects words flags)
    (taken : flagSet p spec text = some change) :
    ∃ after, change.writes = [(p.name, .flags after)] ∧ Reflects (words ++ flagWords text) after := by
  obtain ⟨-, known, rfl⟩ := (flagSet_eq_some_iff named).mp taken
  refine ⟨_, rfl, ?_⟩
  rw [Specification.flags?, found]
  exact reflects.foldl_setFlag known

end Reading

namespace Registry

/-- What a table has to be so that the flags under a name go back to its own lines: the parameter of
that name is one for the tables of links, of which none is set at first, and no other writes to it. -/
structure SetsFlags (r : Registry) (name : String) : Prop where
  own : ∀ p ∈ r.parameters, p.name = name → p.handler = some .flagSet ∧
    p.namedValues = linkTableFlags
  seed : (r.find? name).bind (·.seed?) = some (noFlags linkTableFlags)
  writers : ∀ p ∈ r.parameters, name ∈ p.footprint → p.name = name

theorem setsFlags_standard {name : String} (flagged : name ∈ ["reset", "eliminate"]) :
    standard.SetsFlags name := by
  have own : ∀ name ∈ ["reset", "eliminate"], ∀ p ∈ standard.parameters, p.name = name →
      p.handler = some .flagSet ∧ p.namedValues = linkTableFlags := by
    decide +kernel
  have seed : ∀ name ∈ ["reset", "eliminate"],
      (standard.find? name).bind (·.seed?) = some (noFlags linkTableFlags) := by
    decide +kernel
  have writers : ∀ name ∈ ["reset", "eliminate"], ∀ p ∈ standard.parameters,
      name ∈ p.footprint → p.name = name := by
    decide +kernel
  exact ⟨own name flagged, seed name flagged, writers name flagged⟩

end Registry

namespace Engine

variable {e : Engine} {s : Session} {name text : String} {pair : Pair} {words : List String}

/-- The words that pairs have for the flags under a name. -/
def flagWords (name : String) (pairs : List Pair) : List String :=
  (pairs.filter fun pair => pair.1 == name).flatMap fun pair => Reading.flagWords pair.2

/-- The flags under a name are as some words leave them. -/
def Replays (s : Session) (name : String) (words : List String) : Prop :=
  ∃ flags, s.spec.value? name = some (.flags flags) ∧ Reading.Reflects words flags

theorem flagWords_cons_of_eq (named : pair.1 = name) (pairs : List Pair) :
    flagWords name (pair :: pairs) = Reading.flagWords pair.2 ++ flagWords name pairs := by
  rw [flagWords, List.filter_cons_of_pos (by simpa using named), List.flatMap_cons, flagWords]

theorem flagWords_cons_of_ne (other : pair.1 ≠ name) (pairs : List Pair) :
    flagWords name (pair :: pairs) = flagWords name pairs := by
  rw [flagWords, List.filter_cons_of_neg (by simpa using other), flagWords]

theorem replays_start (sets : e.registry.SetsFlags name) : Replays e.start name [] := by
  obtain ⟨flags, seed, reflects⟩ := Reading.reflects_noFlags
  refine ⟨flags, ?_, reflects⟩
  rw [value?_start, sets.seed, seed]

/-- An accepted line of flags adds its words. -/
theorem replays_own (sets : e.registry.SetsFlags name) (h : Replays s name words)
    (accepted : (e.process s name text).2 = none) :
    Replays (e.process s name text).1 name (words ++ Reading.flagWords text) := by
  obtain ⟨flags, found, reflects⟩ := h
  obtain ⟨p, change, known, taken, made⟩ := exists_change_of_answer accepted
  obtain rfl := name_of_lookup known
  obtain ⟨rules, named⟩ := sets.own p (mem_of_lookup known) rfl
  simp only [Reading.change?, rules, Reading.handled?] at taken
  obtain ⟨after, writes, reflected⟩ := Reading.reflects_flagSet named found reflects taken
  refine ⟨after, ?_, reflected⟩
  rw [made, Session.spec_withVerbosity, Specification.value?_commit, writes,
    Specification.value?_write_singleton, if_pos rfl]

/-- No other line touches the flags. -/
theorem replays_other (sets : e.registry.SetsFlags name) (h : Replays s name words)
    {other : String} (apart : other ≠ name) : Replays (e.process s other text).1 name words := by
  obtain ⟨flags, found, reflects⟩ := h
  have elsewhere : name ∉ e.footprint other := by
    intro touched
    obtain ⟨p, member, named, touched⟩ := exists_of_mem_footprint touched
    exact apart (named.symm.trans (sets.writers p member touched))
  exact ⟨flags, (value?_process_of_not_mem elsewhere).trans found, reflects⟩

theorem replays_refused (h : Replays s name words) {other : String} {refusal : ParameterError}
    (refused : (e.process s other text).2 = some refusal) :
    Replays (e.process s other text).1 name words := by
  obtain ⟨flags, found, reflects⟩ := h
  exact ⟨flags, (value?_process_of_refused refused name).trans found, reflects⟩

theorem replays_run (sets : e.registry.SetsFlags name) (h : Replays s name words)
    (pairs : List Pair) :
    Replays (e.run s pairs) name (words ++ flagWords name (e.accepted s pairs)) := by
  induction pairs generalizing s words with
  | nil => exact (List.append_nil words).symm ▸ h
  | cons pair pairs ih =>
    cases answer : (e.process s pair.1 pair.2).2 with
    | none =>
      rw [run_cons, accepted_cons_of_none answer]
      by_cases named : pair.1 = name
      · subst named
        rw [flagWords_cons_of_eq rfl, ← List.append_assoc]
        exact ih (replays_own sets h answer)
      · rw [flagWords_cons_of_ne named]
        exact ih (replays_other sets h named)
    | some refusal =>
      rw [run_cons, accepted_cons_of_some answer]
      exact ih (replays_refused h answer)

/-- For each table of links the last accepted word decides that is its name or stands for all of them or
for none, and there are no other flags. A line with a word that is not known adds nothing. -/
theorem flags_run (standard : e.registry = .standard) (flagged : name ∈ ["reset", "eliminate"]) :
    (∀ pairs, ∃ flags, (e.run e.start pairs).spec.value? name = some (.flags flags) ∧
      ∀ flag, flags[flag]? =
        if flag ∈ ["categories", "templates", "links", "images"] then
          some (Reading.flagAfter (flagWords name (e.accepted e.start pairs)) flag)
        else none) ∧
    ∀ s text, (∃ word ∈ Reading.flagWords text,
        word ∉ ["categories", "templates", "links", "images", "all", "none"]) →
      (e.process s name text).2.isSome = true ∧
        ∀ key, (e.process s name text).1.spec.value? key = s.spec.value? key := by
  have sets : e.registry.SetsFlags name := standard ▸ Registry.setsFlags_standard flagged
  refine ⟨fun pairs => replays_run sets (replays_start sets) pairs, fun s text stray => ?_⟩
  cases answer : (e.process s name text).2 with
  | some refusal => exact ⟨rfl, value?_process_of_refused answer⟩
  | none =>
    obtain ⟨p, change, known, taken, -⟩ := exists_change_of_answer answer
    obtain ⟨rules, named⟩ := sets.own p (mem_of_lookup known) (name_of_lookup known)
    simp only [Reading.change?, rules, Reading.handled?] at taken
    obtain ⟨-, all, -⟩ := (Reading.flagSet_eq_some_iff named).mp taken
    obtain ⟨word, member, unknown⟩ := stray
    exact absurd (all word member) unknown

theorem flags_run_eliminate :
    let e : Engine := ⟨.standard, {}, Site.host {}⟩
    let pairs := [("eliminate", "all"), ("eliminate", "Links, none ,templates"), ("reset", "images"),
      ("eliminate", "images,colours"), ("eliminate", ", LINKS")]
    "eliminate" ∈ ["reset", "eliminate"] ∧
      flagWords "eliminate" (e.accepted e.start pairs) =
        ["all", "links", "none", "templates", "links"] ∧
      ∃ flags, (e.run e.start pairs).spec.value? "eliminate" = some (.flags flags) ∧
        flags["categories"]? = some false ∧ flags["templates"]? = some true ∧
        flags["links"]? = some true ∧ flags["images"]? = some false ∧ flags["all"]? = none ∧
        (e.process e.start "eliminate" "images,colours").2.isSome = true := by
  intro e pairs
  have flagged : "eliminate" ∈ ["reset", "eliminate"] := by decide
  have words : flagWords "eliminate" (e.accepted e.start pairs) =
      ["all", "links", "none", "templates", "links"] := by decide +kernel
  obtain ⟨replays, strays⟩ := flags_run (e := e) rfl flagged
  obtain ⟨flags, found, reflects⟩ := replays pairs
  have stray := strays e.start "images,colours" ⟨"colours", by decide +kernel, by decide⟩
  rw [words] at reflects
  have states : ∀ flag state, (if flag ∈ ["categories", "templates", "links", "images"] then
      some (Reading.flagAfter ["all", "links", "none", "templates", "links"] flag) else none) = state →
      flags[flag]? = state := fun flag state same => (reflects flag).trans same
  exact ⟨flagged, words, flags, found, states _ _ (by decide), states _ _ (by decide),
    states _ _ (by decide), states _ _ (by decide), states _ _ (by decide), stray.1⟩

end Engine

end WikiQuery

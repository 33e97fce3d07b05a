import WikiQuery.Proofs.Law

/-!
The index of a table is exact. Each entry that joins stands behind the others with its pattern compiled,
and the names so far stay where they are. So a list of entries can be indexed if each can join those in
front of it, and otherwise the first one that cannot is to blame. What is found under a name is then what
a search of the list for the name finds.
-/

set_option autoImplicit false

namespace WikiQuery

namespace Index

variable {α : Type} {compile : String → Option α} {index next : Index compile} {e : Entry α}
  {es : List (Entry α)} {defect : Malformation}

/-- Why an entry cannot join entries with some names. -/
def Spoils (compile : String → Option α) (names : List String) (e : Entry α)
    (defect : Malformation) : Prop :=
  ¬e.Compiles compile ∧ defect = .brokenPattern e.name ∨
    e.Compiles compile ∧ e.name ∈ names ∧ defect = .repeatedName e.name

/-- An entry cannot join for a reason, or else it comes last. -/
theorem add_cases (index : Index compile) (e : Entry α) :
    (∃ defect, Spoils compile index.names e defect ∧ index.add e = .error defect) ∨
      (e.Compiles compile ∧ e.name ∉ index.names) ∧
        ∃ next, index.add e = .ok next ∧
          next.entries.toList = index.entries.toList ++ [e.withPattern compile] := by
  unfold add
  split
  · rename_i prepared
    exact .inl ⟨_, .inl ⟨Entry.prepared?_eq_none_iff.mp prepared, rfl⟩, rfl⟩
  · rename_i made prepared
    obtain ⟨compiles, rfl⟩ := Entry.prepared?_eq_some_iff.mp prepared
    split
    · rename_i place noted
      have known : e.name ∈ index.names := List.mem_of_getElem? (getElem?_places.mp noted)
      exact .inl ⟨_, .inr ⟨compiles, known, rfl⟩, rfl⟩
    · rename_i fresh
      exact .inr ⟨⟨compiles, getElem?_places_eq_none.mp fresh⟩, _, rfl, Array.toList_push⟩

theorem entries_of_add (h : index.add e = .ok next) :
    next.entries.toList = index.entries.toList ++ [e.withPattern compile] := by
  rcases index.add_cases e with ⟨defect, -, refused⟩ | ⟨-, made, joins, entries⟩
  · cases refused.symm.trans h
  · obtain rfl := Except.ok.inj (joins.symm.trans h)
    exact entries

/-- One entry is to blame for one reason. -/
theorem add_eq_error_iff : index.add e = .error defect ↔ Spoils compile index.names e defect := by
  rcases index.add_cases e with ⟨cause, spoils, refused⟩ | ⟨⟨compiles, fresh⟩, made, joins, -⟩
  · rw [refused, Except.error.injEq]
    unfold Spoils at *
    grind
  · rw [joins]
    unfold Spoils
    grind

theorem addAll_cons_of_ok (first : index.add e = .ok next) :
    index.addAll (e :: es) = next.addAll es := by
  rw [addAll, first]

theorem addAll_cons_of_error (first : index.add e = .error defect) :
    index.addAll (e :: es) = .error defect := by
  rw [addAll, first]

/-- Entries join in their order, behind those that were there. -/
theorem entries_of_addAll (h : index.addAll es = .ok next) :
    next.entries.toList = index.entries.toList ++ es.map (Entry.withPattern compile) := by
  induction es generalizing index with
  | nil =>
    obtain rfl := Except.ok.inj h
    exact (List.append_nil _).symm
  | cons e es ih =>
    cases first : index.add e with
    | error defect => cases (addAll_cons_of_error first).symm.trans h
    | ok mid =>
      rw [addAll_cons_of_ok first] at h
      rw [ih h, entries_of_add first, List.map_cons, List.append_assoc, List.singleton_append]

theorem names_of_addAll (h : index.addAll es = .ok next) :
    next.names = index.names ++ es.map Entry.name := by
  simp [names, entries_of_addAll h, Function.comp_def]

/-- The first entry that cannot join those in front of it is to blame. -/
theorem addAll_eq_error_iff : index.addAll es = .error defect ↔
    ∃ before e after mid, es = before ++ e :: after ∧ index.addAll before = .ok mid ∧
      mid.add e = .error defect := by
  constructor
  · intro h
    induction es generalizing index with
    | nil => cases h
    | cons e es ih =>
      cases first : index.add e with
      | error cause =>
        rw [addAll_cons_of_error first] at h
        exact ⟨[], e, es, index, rfl, rfl, first.trans h⟩
      | ok made =>
        rw [addAll_cons_of_ok first] at h
        obtain ⟨before, d, after, mid, rfl, joined, refused⟩ := ih h
        exact ⟨e :: before, d, after, mid, rfl, (addAll_cons_of_ok first).trans joined, refused⟩
  · rintro ⟨before, e, after, mid, rfl, joined, refused⟩
    induction before generalizing index with
    | nil =>
      obtain rfl := Except.ok.inj joined
      exact addAll_cons_of_error refused
    | cons d before ih =>
      cases first : index.add d with
      | error cause => cases (addAll_cons_of_error first).symm.trans joined
      | ok made =>
        rw [addAll_cons_of_ok first] at joined
        exact (addAll_cons_of_ok first).trans (ih joined)

/-- All entries join if their patterns compile and all names are different. -/
theorem exists_addAll_iff : (∃ next, index.addAll es = .ok next) ↔
    (index.names ++ es.map Entry.name).Nodup ∧ ∀ e ∈ es, e.Compiles compile := by
  constructor
  · rintro ⟨next, joined⟩
    refine ⟨names_of_addAll joined ▸ next.names_nodup, fun e member => ?_⟩
    have listed : e.withPattern compile ∈ next.entries.toList := by
      rw [entries_of_addAll joined]
      exact List.mem_append_right _ (List.mem_map_of_mem member)
    exact next.compiles (e.withPattern compile) (Array.mem_def.mpr listed)
  · rintro ⟨nodup, compiles⟩
    cases result : index.addAll es with
    | ok next => exact ⟨next, rfl⟩
    | error defect =>
      obtain ⟨before, e, after, mid, rfl, joined, refused⟩ := addAll_eq_error_iff.mp result
      rcases add_eq_error_iff.mp refused with ⟨broken, -⟩ | ⟨-, known, -⟩
      · exact absurd (compiles e (by simp)) broken
      · rw [List.map_append, ← List.append_assoc, ← names_of_addAll joined, List.map_cons] at nodup
        exact absurd known (List.disjoint_of_nodup_append nodup · List.mem_cons_self)

theorem exists_ofList_iff : (∃ index, ofList compile es = .ok index) ↔
    (es.map Entry.name).Nodup ∧ ∀ e ∈ es, e.Compiles compile :=
  exists_addAll_iff

/-- Those in front of the entry that is to blame could have been indexed without it. -/
theorem ofList_eq_error_iff : ofList compile es = .error defect ↔
    ∃ before e after, es = before ++ e :: after ∧
      ((before.map Entry.name).Nodup ∧ ∀ d ∈ before, d.Compiles compile) ∧
      Spoils compile (before.map Entry.name) e defect := by
  rw [ofList, addAll_eq_error_iff]
  refine exists_congr fun before => exists_congr fun e => exists_congr fun after => ?_
  rw [← exists_ofList_iff]
  constructor
  · rintro ⟨mid, parts, joined, refused⟩
    have spoils := add_eq_error_iff.mp refused
    rw [names_of_addAll joined] at spoils
    exact ⟨parts, ⟨mid, joined⟩, spoils⟩
  · rintro ⟨parts, ⟨mid, joined⟩, spoils⟩
    refine ⟨mid, parts, joined, add_eq_error_iff.mpr ?_⟩
    rwa [names_of_addAll joined]

/-- What is found under a name is the one entry of the name, with its pattern compiled. -/
theorem find?_of_ofList (h : ofList compile es = .ok index) {name : String} {found : Entry α} :
    index.find? name = some found ↔
      ∃ e, (∀ d, d ∈ es ∧ d.name = name ↔ d = e) ∧ found = e.withPattern compile := by
  have nodup := (exists_ofList_iff.mp ⟨index, h⟩).1
  rw [find?_eq_some_iff, Array.mem_def, entries_of_addAll h]
  constructor
  · rintro ⟨listed, rfl⟩
    obtain ⟨e, member, rfl⟩ := List.mem_map.mp listed
    refine ⟨e, fun d => ⟨fun ⟨other, same⟩ => ?_, ?_⟩, rfl⟩
    · exact List.inj_on_of_nodup_map nodup other member same
    · rintro rfl
      exact ⟨member, rfl⟩
  · rintro ⟨e, only, rfl⟩
    obtain ⟨member, rfl⟩ := (only e).mpr rfl
    exact ⟨List.mem_map_of_mem member, rfl⟩

end Index

namespace Registry

/-- A search of a table comes to what its index comes to. -/
theorem find?_ofIndex {α : Type} {compile : String → Option α} (index : Index compile)
    (name : String) :
    (ofIndex index).find? name = (index.find? name).map (·.parameter) := by
  cases found : index.find? name with
  | some e =>
    obtain ⟨member, rfl⟩ := Index.find?_eq_some_iff.mp found
    exact find?_of_mem (List.mem_map_of_mem (Array.mem_def.mp member))
  | none =>
    refine List.find?_eq_none.mpr fun p listed same => ?_
    obtain ⟨e, member, rfl⟩ := List.mem_map.mp listed
    have there := Index.find?_eq_some_iff.mpr ⟨Array.mem_def.mpr member, beq_iff_eq.mp same⟩
    cases there.symm.trans found

theorem ofList_eq_error_iff {ps : List Parameter} {library : PatternLibrary}
    {error : ParameterError} :
    ofList ps library = .error error ↔
      ∃ defect, Index.ofList library.compile (ps.map .ofParameter) = .error defect ∧
        error = .structural defect := by
  unfold ofList
  split
  · rename_i defect refused
    simp [refused, eq_comm]
  · rename_i index joined
    simp [joined]

/-- A table is the parameters that it was made of, and it is searched as its index is. -/
theorem exists_index_of_ofList {ps : List Parameter} {library : PatternLibrary} {r : Registry}
    (h : ofList ps library = .ok r) :
    ∃ index, Index.ofList library.compile (ps.map .ofParameter) = .ok index ∧
      r.parameters = ps ∧ ∀ name, r.find? name = (index.find? name).map (·.parameter) := by
  unfold ofList at h
  split at h
  · cases h
  · rename_i index joined
    obtain rfl := Except.ok.inj h
    refine ⟨index, joined, ?_, find?_ofIndex index⟩
    have entries := Index.entries_of_addAll joined
    calc index.entries.toList.map (·.parameter)
        = ((ps.map .ofParameter).map (Index.Entry.withPattern library.compile)).map
            (·.parameter) := by
          rw [entries]
          rfl
      _ = ps := by
          rw [List.map_map, List.map_map]
          exact List.map_id ps

end Registry

/-- A list of entries is indexed if all names are different and all patterns compile. The index has the
entries in their order, and under each name it finds the one entry of the name, or nothing if there is
none. Otherwise the first entry that could not join those in front of it is to blame, and for its
pattern rather than its name. The tables that queries are read by are made and searched so. -/
theorem Index.ofList_exact {α : Type} (compile : String → Option α) (es : List (Index.Entry α)) :
    ((∃ index, ofList compile es = .ok index) ↔
      (es.map Entry.name).Nodup ∧ ∀ e ∈ es, e.Compiles compile) ∧
    (∀ index, ofList compile es = .ok index →
      index.entries.toList = es.map (Entry.withPattern compile) ∧
      (∀ name found, index.find? name = some found ↔
        ∃ e, (∀ d, d ∈ es ∧ d.name = name ↔ d = e) ∧ found = e.withPattern compile) ∧
      ∀ name, index.find? name = none ↔ name ∉ es.map Entry.name) ∧
    (∀ defect, ofList compile es = .error defect ↔
      ∃ before e after, es = before ++ e :: after ∧
        ((before.map Entry.name).Nodup ∧ ∀ d ∈ before, d.Compiles compile) ∧
        Spoils compile (before.map Entry.name) e defect) ∧
    ∀ (ps : List Parameter) (library : PatternLibrary),
      (∀ r, Registry.ofList ps library = .ok r →
        ∃ index, ofList library.compile (ps.map .ofParameter) = .ok index ∧
          r.parameters = ps ∧ ∀ name, r.find? name = (index.find? name).map (·.parameter)) ∧
      ∀ error, Registry.ofList ps library = .error error ↔
        ∃ defect, ofList library.compile (ps.map .ofParameter) = .error defect ∧
          error = .structural defect := by
  refine ⟨exists_ofList_iff, fun index joined => ⟨entries_of_addAll joined, fun name found => ?_,
    fun name => ?_⟩, fun defect => ofList_eq_error_iff,
    fun ps library => ⟨fun r => ?_, fun error => ?_⟩⟩
  · exact find?_of_ofList joined
  · rw [find?_eq_none_iff, names_of_addAll joined]
    rfl
  · exact Registry.exists_index_of_ofList
  · exact Registry.ofList_eq_error_iff

/-- The second place is found; a pattern is to blame even if the name is not new either. -/
theorem Index.ofList_exact_broken :
    let count : Index.Entry Pattern := .ofParameter { name := "count", pattern := some "^(\\d*)$" }
    let order : Index.Entry Pattern := .ofParameter { name := "order" }
    let broken : Index.Entry Pattern := .ofParameter { name := "count", pattern := some "(" }
    (∃ index, ofList Pattern.ofSource? [count, order] = .ok index ∧
      index.find? "order" = some order) ∧
    ofList Pattern.ofSource? [count, order, broken] = .error (.brokenPattern "count") := by
  intro count order broken
  have sound : count.Compiles Pattern.ofSource? := by
    rintro _ ⟨rfl⟩
    decide +kernel
  have fine : (([count, order].map Entry.name).Nodup ∧
      ∀ e ∈ [count, order], e.Compiles Pattern.ofSource?) := by
    refine ⟨by decide, ?_⟩
    rintro e (_ | ⟨_, _ | ⟨_, ⟨⟩⟩⟩)
    · exact sound
    · rintro _ ⟨⟩
  obtain ⟨succeeds, finds, -⟩ := ofList_exact Pattern.ofSource? [count, order]
  obtain ⟨index, joined⟩ := succeeds.mpr fine
  obtain ⟨-, -, fails, -⟩ := ofList_exact Pattern.ofSource? [count, order, broken]
  refine ⟨⟨index, joined, ?_⟩,
    (fails _).mpr ⟨[count, order], broken, [], rfl, fine, .inl ⟨?_, rfl⟩⟩⟩
  · refine ((finds index joined).2.1 "order" order).mpr ⟨order, fun d => ⟨?_, ?_⟩, rfl⟩
    · rintro ⟨_ | ⟨_, _ | ⟨_, ⟨⟩⟩⟩, named⟩
      · exact absurd named (by decide)
      · rfl
    · rintro rfl
      exact ⟨by simp, rfl⟩
  · intro compiles
    exact absurd (compiles "(" rfl) (by decide +kernel)

end WikiQuery

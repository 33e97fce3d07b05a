import Mathlib.Data.List.Nodup
import WikiQuery.Proofs.Run

/-!
Laws for the values of a query. Some laws say what may stand under a key, whichever parameter wrote
it. A law that the seeds of a table obey, and that no change breaks which a parameter makes to a query
that obeys it, holds of every query that pairs come to.
-/

set_option autoImplicit false

namespace WikiQuery

namespace Registry

/-- A parameter is found under its name. -/
theorem find?_of_mem {r : Registry} {p : Parameter} (h : p ∈ r.parameters) :
    r.find? p.name = some p := by
  cases found : r.find? p.name with
  | none => simpa using List.find?_eq_none.mp found p h
  | some q =>
    exact congrArg some
      (List.inj_on_of_nodup_map r.names_nodup (mem_of_find? found) h (name_of_find? found))

end Registry

namespace Specification

variable {s : Specification} {law : String → Value → Prop} {key : String}
  {writes : List (String × Value)}

/-- Under a key there is what was there before, if nothing is written to it, or else something that
is written to it. -/
theorem value?_write_cases (s : Specification) (writes : List (String × Value)) (key : String) :
    (s.write writes).value? key = s.value? key ∨
      ∃ w ∈ writes, w.1 = key ∧ (s.write writes).value? key = some w.2 := by
  induction writes generalizing s with
  | nil => exact .inl rfl
  | cons w writes ih =>
    rw [write_cons]
    -- What is written last counts, so the later writes are asked first.
    rcases ih (s.write [w]) with same | ⟨v, member, named, written⟩
    · rw [same, value?_write_singleton]
      split
      · exact .inr ⟨w, List.mem_cons_self, ‹_›, rfl⟩
      · exact .inl rfl
    · exact .inr ⟨v, List.mem_cons_of_mem w member, named, written⟩

/-- Under a key that is written to there is something that is written to it. -/
theorem exists_value?_write (s : Specification) (h : ∃ w ∈ writes, w.1 = key) :
    ∃ w ∈ writes, w.1 = key ∧ (s.write writes).value? key = some w.2 := by
  induction writes generalizing s with
  | nil => simp at h
  | cons first writes ih =>
    rw [write_cons]
    by_cases later : ∃ w ∈ writes, w.1 = key
    · obtain ⟨w, member, named, written⟩ := ih (s.write [first]) later
      exact ⟨w, List.mem_cons_of_mem first member, named, written⟩
    · have untouched : ∀ w ∈ writes, w.1 ≠ key := fun w member named => later ⟨w, member, named⟩
      obtain ⟨w, member, named⟩ := h
      obtain rfl : w = first := by
        rcases List.mem_cons.mp member with same | member
        · exact same
        · exact absurd named (untouched w member)
      refine ⟨w, List.mem_cons_self, named, ?_⟩
      rw [value?_write_of_forall_ne untouched, value?_write_singleton, if_pos named]

/-- What is written stands under its key, if nothing else is written to the key. -/
theorem value?_write_of_mem {value : Value} (s : Specification)
    (nodup : (writes.map (·.1)).Nodup) (written : (key, value) ∈ writes) :
    (s.write writes).value? key = some value := by
  obtain ⟨w, member, named, latest⟩ := s.exists_value?_write ⟨_, written, rfl⟩
  have same : w = (key, value) := List.inj_on_of_nodup_map nodup member written named
  rw [latest, same]

/-- Each value of a query is as a law has it for its key. -/
def Obeys (s : Specification) (law : String → Value → Prop) : Prop :=
  ∀ key value, s.value? key = some value → law key value

/-- A query has values wherever another one has. -/
def Covers (s t : Specification) : Prop :=
  ∀ key, (t.value? key).isSome = true → (s.value? key).isSome = true

theorem Obeys.write (h : s.Obeys law) (lawful : ∀ w ∈ writes, law w.1 w.2) :
    (s.write writes).Obeys law := by
  intro key value found
  rcases s.value?_write_cases writes key with same | ⟨w, member, rfl, written⟩
  · exact h key value (same.symm.trans found)
  · rw [written] at found
    exact Option.some.inj found ▸ lawful w member

theorem Obeys.of_values_eq {t : Specification} (h : s.Obeys law) (same : t.values = s.values) :
    t.Obeys law := by
  intro key value found
  refine h key value ?_
  rwa [value?, ← same]

private theorem getElem?_seeds (ps : List Parameter) (nodup : (ps.map (·.name)).Nodup)
    (values : Std.ExtTreeMap String Value) (key : String) :
    (ps.foldl
      (fun values p =>
        match p.seed? with
        | some value => values.insert p.name value
        | none => values) values)[key]? =
      ((ps.find? (·.name == key)).bind (·.seed?)).or values[key]? := by
  induction ps generalizing values with
  | nil => rfl
  | cons p ps ih =>
    rw [List.map_cons, List.nodup_cons] at nodup
    rw [List.foldl_cons, ih nodup.2]
    by_cases named : p.name = key
    · -- The name of the first parameter is not used again.
      have unused : ps.find? (·.name == key) = none := by
        refine List.find?_eq_none.mpr fun q member same => nodup.1 ?_
        exact List.mem_map.mpr ⟨q, member, (beq_iff_eq.mp same).trans named.symm⟩
      rw [unused, List.find?_cons_of_pos (by simp [named])]
      cases seed : p.seed? with
      | none => simp [seed]
      | some value => simp [seed, named]
    · rw [List.find?_cons_of_neg (by simp [named])]
      cases seed : p.seed? with
      | none => rfl
      | some value => simp [Std.ExtTreeMap.getElem?_insert, named]

/-- A fresh query holds the seeds of its table. -/
theorem value?_ofRegistry (r : Registry) (key : String) :
    (ofRegistry r).value? key = (r.find? key).bind (·.seed?) := by
  have seeds := getElem?_seeds r.parameters r.names_nodup ∅ key
  rw [Std.ExtTreeMap.getElem?_empty, Option.or_none] at seeds
  exact seeds

end Specification

namespace Engine

variable {e : Engine} {s : Session} {name text : String} {law : String → Value → Prop}

theorem value?_start (e : Engine) (key : String) :
    e.start.spec.value? key = (e.registry.find? key).bind (·.seed?) :=
  Specification.value?_ofRegistry e.registry key

/-- A pair either leaves the values and the noted conflict as they are, or it makes a change. -/
theorem spec_process_cases (e : Engine) (s : Session) (name text : String) :
    ((e.process s name text).1.spec.values = s.spec.values ∧
        (e.process s name text).1.spec.openReferencesConflict = s.spec.openReferencesConflict) ∨
      ∃ p ∈ e.registry.parameters, ∃ change,
        Reading.change? e.settings e.host p s.spec text = some change ∧
          (e.process s name text).1.spec = (s.spec.mark p.name).commit p change := by
  cases found : e.lookup name with
  | error refusal =>
    rw [process_of_lookup_error found]
    exact .inl ⟨rfl, rfl⟩
  | ok p =>
    cases taken : Reading.change? e.settings e.host p s.spec text with
    | none =>
      rw [process_of_refused found taken]
      exact .inl ⟨rfl, rfl⟩
    | some change =>
      rw [process_of_accepted found taken]
      have member := Registry.mem_of_find? (lookup_eq_ok_iff.mp found).2.1
      exact .inr ⟨p, member, change, taken, rfl⟩

/-- A value is changed by nothing but what an accepted pair writes to its key. -/
theorem value?_process_cases (e : Engine) (s : Session) (name text key : String) :
    (e.process s name text).1.spec.value? key = s.spec.value? key ∨
      ∃ p change, e.lookup name = .ok p ∧
        Reading.change? e.settings e.host p s.spec text = some change ∧
        (e.process s name text).2 = none ∧
        ∃ w ∈ change.writes, w.1 = key ∧ (e.process s name text).1.spec.value? key = some w.2 := by
  cases found : e.lookup name with
  | error refusal =>
    rw [process_of_lookup_error found]
    exact .inl rfl
  | ok p =>
    cases taken : Reading.change? e.settings e.host p s.spec text with
    | none =>
      rw [process_of_refused found taken]
      exact .inl rfl
    | some change =>
      rw [process_of_accepted found taken]
      rcases (s.spec.mark p.name).value?_write_cases change.writes key with kept | written
      · exact .inl kept
      · exact .inr ⟨p, change, rfl, taken, rfl, written⟩

theorem value?_process_of_refused {refusal : ParameterError}
    (refused : (e.process s name text).2 = some refusal) (key : String) :
    (e.process s name text).1.spec.value? key = s.spec.value? key := by
  rcases e.value?_process_cases s name text key with kept | ⟨p, change, -, -, answer, -⟩
  · exact kept
  · rw [answer] at refused
    cases refused

/-- A law that the seeds obey and that no parameter breaks. Where it is needed, a value that has a seed
can be taken to be there. -/
structure Upholds (e : Engine) (law : String → Value → Prop) : Prop where
  seeds : ∀ p ∈ e.registry.parameters, ∀ value, p.seed? = some value → law p.name value
  changes : ∀ p ∈ e.registry.parameters, ∀ spec : Specification,
    spec.Covers e.start.spec → spec.Obeys law → ∀ text,
      Reading.Makes (fun change => ∀ w ∈ change.writes, law w.1 w.2)
        (Reading.change? e.settings e.host p spec text)

theorem Upholds.start (h : e.Upholds law) : e.start.spec.Obeys law := by
  intro key value found
  rw [value?_start] at found
  obtain ⟨p, known, seeded⟩ := Option.bind_eq_some_iff.mp found
  rw [← Registry.name_of_find? known]
  exact h.seeds p (Registry.mem_of_find? known) value seeded

/-- No value is ever taken away. -/
theorem covers_process {other : Specification} (h : s.spec.Covers other) (name text : String) :
    (e.process s name text).1.spec.Covers other := by
  intro key held
  rcases e.spec_process_cases s name text with ⟨same, -⟩ | ⟨p, -, change, -, made⟩
  · rw [Specification.value?, same]
    exact h key held
  · rw [made, Specification.value?_commit]
    rcases (s.spec.mark p.name).value?_write_cases change.writes key with kept | ⟨w, -, -, written⟩
    · rw [kept]
      exact h key held
    · rw [written]
      rfl

theorem covers_run (s : Session) (pairs : List Pair) : (e.run s pairs).spec.Covers s.spec := by
  suffices ∀ t : Session, t.spec.Covers s.spec → (e.run t pairs).spec.Covers s.spec from
    this s fun _ held => held
  induction pairs with
  | nil => exact fun t h => h
  | cons pair pairs ih => exact fun t h => ih _ (covers_process h pair.1 pair.2)

theorem Upholds.process (h : e.Upholds law) (seeded : s.spec.Covers e.start.spec)
    (obeyed : s.spec.Obeys law) (name text : String) :
    (e.process s name text).1.spec.Obeys law := by
  rcases e.spec_process_cases s name text with ⟨same, -⟩ | ⟨p, member, change, taken, made⟩
  · exact obeyed.of_values_eq same
  · rw [made]
    have written := obeyed.write (h.changes p member s.spec seeded obeyed text change taken)
    exact written.of_values_eq rfl

/-- What is upheld holds of every query that pairs come to. -/
theorem Upholds.run (h : e.Upholds law) (pairs : List Pair) :
    (e.run e.start pairs).spec.Obeys law := by
  -- A parameter may rely on the seeds, so that they are kept goes into the induction.
  suffices ∀ s : Session, s.spec.Covers e.start.spec → s.spec.Obeys law →
      (e.run s pairs).spec.Obeys law from
    this e.start (fun _ held => held) h.start
  induction pairs with
  | nil => exact fun s _ obeyed => obeyed
  | cons pair pairs ih =>
    intro s seeded obeyed
    exact ih _ (covers_process seeded pair.1 pair.2) (h.process seeded obeyed pair.1 pair.2)

end Engine

end WikiQuery

import WikiQuery.Parameter
import WikiQuery.ParameterError

/-!
Tables of parameters that are looked up by name. Parameters join a table one by one. The pattern of each is
compiled as it joins, and its name is noted with the place that it gets, so names are not searched for.
-/

set_option autoImplicit false

namespace WikiQuery

/-- A parameter, and its pattern once that is compiled. -/
structure Index.Entry (α : Type) where
  parameter : Parameter
  compiled : Option α := none

namespace Index.Entry

variable {α : Type} {compile : String → Option α} {e made : Entry α}

/-- A parameter whose pattern has not been compiled yet. -/
def ofParameter (p : Parameter) : Entry α :=
  { parameter := p }

def name (e : Entry α) : String :=
  e.parameter.name

/-- The entry with its pattern compiled, if the pattern is not broken. -/
def prepared? (compile : String → Option α) (e : Entry α) : Option (Entry α) :=
  match e.parameter.pattern with
  | none => some e
  | some source => (compile source).map fun pattern => { e with compiled := some pattern }

/-- Whether the pattern, if there is one, can be compiled. -/
def Compiles (compile : String → Option α) (e : Entry α) : Prop :=
  ∀ source ∈ e.parameter.pattern, (compile source).isSome = true

/-- The entry with what its pattern, if there is one, compiles to. -/
def withPattern (compile : String → Option α) (e : Entry α) : Entry α :=
  { e with compiled := e.parameter.pattern.elim e.compiled compile }

@[simp] theorem name_withPattern : (e.withPattern compile).name = e.name :=
  rfl

theorem prepared?_eq_some_iff :
    e.prepared? compile = some made ↔ e.Compiles compile ∧ made = e.withPattern compile := by
  unfold prepared? Compiles withPattern
  cases e.parameter.pattern with
  | none =>
    simp only [Option.some.injEq, Option.elim_none, Option.mem_def, reduceCtorEq, false_implies,
      implies_true, true_and]
    exact eq_comm
  | some source =>
    cases compiled : compile source with
    | none => simp [compiled]
    | some pattern =>
      simp only [Option.map_some, Option.some.injEq, Option.elim_some, Option.mem_def, forall_eq',
        compiled, Option.isSome_some, true_and]
      exact eq_comm

theorem prepared?_eq_none_iff : e.prepared? compile = none ↔ ¬e.Compiles compile := by
  simp [Option.eq_none_iff_forall_ne_some, prepared?_eq_some_iff]

theorem compiles_of_prepared? (h : e.prepared? compile = some made) : made.Compiles compile := by
  obtain ⟨compiles, rfl⟩ := prepared?_eq_some_iff.mp h
  exact compiles

end Index.Entry

namespace Index

variable {α : Type}

/-- Whether a name has a place exactly if the entry at the place has the name. -/
def Aligned (entries : Array (Entry α)) (places : Std.ExtTreeMap String Nat) : Prop :=
  ∀ name place, places[name]? = some place ↔ (entries[place]?).map Entry.name = some name

theorem aligned_empty : Aligned (α := α) #[] ∅ := by
  simp [Aligned]

/-- An entry gets the place behind the others, if its name has none. -/
theorem Aligned.push {entries : Array (Entry α)} {places : Std.ExtTreeMap String Nat} {e : Entry α}
    (aligned : Aligned entries places) (fresh : places[e.name]? = none) :
    Aligned (entries.push e) (places.insert e.name entries.size) := by
  intro name place
  have old := aligned name place
  rw [Std.ExtTreeMap.getElem?_insert, Array.getElem?_push]
  simp only [Std.compare_eq_iff_eq]
  by_cases named : e.name = name
  · subst named
    rw [fresh] at old
    by_cases last : place = entries.size
    · simp [last]
    · rw [if_pos rfl, if_neg last, ← old]
      simpa using Ne.symm last
  · rw [if_neg named, old]
    by_cases last : place = entries.size
    · simp [last, named]
    · rw [if_neg last]

end Index

/-- Entries in the order in which they joined, and the place of each name among them. -/
structure Index {α : Type} (compile : String → Option α) where
  entries : Array (Index.Entry α)
  places : Std.ExtTreeMap String Nat
  compiles : ∀ e ∈ entries, e.Compiles compile
  aligned : Index.Aligned entries places

namespace Index

variable {α : Type} {compile : String → Option α} {index : Index compile} {name : String} {e : Entry α}

def empty : Index compile where
  entries := #[]
  places := ∅
  compiles := by simp
  aligned := aligned_empty

/-- The index with one more entry at its end, whose name is new. -/
def push (index : Index compile) (e : Entry α) (compiles : e.Compiles compile)
    (fresh : index.places[e.name]? = none) : Index compile where
  entries := index.entries.push e
  places := index.places.insert e.name index.entries.size
  compiles := by
    intro d member
    rcases Array.mem_push.mp member with old | rfl
    · exact index.compiles d old
    · exact compiles
  aligned := index.aligned.push fresh

/-- The index with one more entry. A broken pattern counts before a name that is not new. -/
def add (index : Index compile) (e : Entry α) : Except Malformation (Index compile) :=
  match prepared : e.prepared? compile with
  | none => .error (.brokenPattern e.name)
  | some made =>
    match fresh : index.places[made.name]? with
    | some _ => .error (.repeatedName e.name)
    | none => .ok (index.push made (Entry.compiles_of_prepared? prepared) fresh)

/-- The index with more entries, up to the first one that cannot join. -/
def addAll : Index compile → List (Entry α) → Except Malformation (Index compile)
  | index, [] => .ok index
  | index, e :: es =>
    match index.add e with
    | .error defect => .error defect
    | .ok next => next.addAll es

/-- The index of some entries, unless one of them cannot join. -/
def ofList (compile : String → Option α) (es : List (Entry α)) : Except Malformation (Index compile) :=
  empty.addAll es

/-- The entry with a name: the one at the place of the name. -/
def find? (index : Index compile) (name : String) : Option (Entry α) :=
  (index.places[name]?).bind fun place => index.entries[place]?

/-- The names in the order in which they joined. -/
def names (index : Index compile) : List String :=
  index.entries.toList.map Entry.name

theorem getElem?_places {place : Nat} :
    index.places[name]? = some place ↔ index.names[place]? = some name := by
  rw [index.aligned, names, List.getElem?_map, Array.getElem?_toList]

theorem getElem?_places_eq_none : index.places[name]? = none ↔ name ∉ index.names := by
  rw [Option.eq_none_iff_forall_ne_some, List.mem_iff_getElem?, not_exists]
  exact forall_congr' fun place => not_congr getElem?_places

theorem names_nodup (index : Index compile) : index.names.Nodup := by
  refine List.pairwise_iff_getElem.mpr fun i j first second earlier same => ?_
  have place := getElem?_places.mpr (List.getElem?_eq_getElem first)
  rw [same, getElem?_places.mpr (List.getElem?_eq_getElem second)] at place
  exact Nat.ne_of_gt earlier (Option.some.inj place)

/-- An entry is found under its name, and nothing else is. -/
theorem find?_eq_some_iff : index.find? name = some e ↔ e ∈ index.entries ∧ e.name = name := by
  rw [find?, Option.bind_eq_some_iff]
  constructor
  · rintro ⟨place, noted, there⟩
    have named := (index.aligned name place).mp noted
    rw [there] at named
    exact ⟨Array.mem_of_getElem? there, Option.some.inj named⟩
  · rintro ⟨member, rfl⟩
    obtain ⟨place, there⟩ := Array.mem_iff_getElem?.mp member
    exact ⟨place, (index.aligned e.name place).mpr (by rw [there]; rfl), there⟩

theorem find?_eq_none_iff : index.find? name = none ↔ name ∉ index.names := by
  simp [Option.eq_none_iff_forall_ne_some, find?_eq_some_iff, names]

end Index

end WikiQuery

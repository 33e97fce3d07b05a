import WikiQuery.Proofs.Domain

/-!
The separators of a table. Whatever the order in which pairs stand in a directive, the parts that
are shown are known before a table is read, so the last table lays out the separators of all of them.
-/

set_option autoImplicit false

namespace WikiQuery

namespace Reading.Table

variable {opening label : String} {labels : List String} {i : Nat}

private theorem getElem?_flatMap_pair {α β : Type} (a b : β) {items : List α} {i : Nat}
    (bound : i < items.length) :
    (items.flatMap fun _ => [a, b])[2 * i]? = some a ∧
      (items.flatMap fun _ => [a, b])[2 * i + 1]? = some b := by
  induction items generalizing i with
  | nil => cases bound
  | cons item items ih =>
    rw [List.flatMap_cons]
    cases i with
    | zero => exact ⟨rfl, rfl⟩
    | succ i => exact ih (Nat.lt_of_succ_lt_succ bound)

theorem partSeparators_zero (inhabited : labels ≠ []) :
    (partSeparators opening labels)[0]? = some opening := by
  cases labels with
  | nil => exact absurd rfl inhabited
  | cons label labels => rfl

theorem partSeparators_even (positive : 0 < i) (bound : i < labels.length) :
    (partSeparators opening labels)[2 * i]? = some cellOpening := by
  cases labels with
  | nil => cases bound
  | cons label labels =>
    cases i with
    | zero => cases positive
    | succ i =>
      exact (getElem?_flatMap_pair cellOpening "" (Nat.lt_of_succ_lt_succ bound)).1

theorem partSeparators_odd (bound : i < labels.length) :
    (partSeparators opening labels)[2 * i + 1]? = some "" := by
  cases labels with
  | nil => cases bound
  | cons label labels =>
    cases i with
    | zero => rfl
    | succ i =>
      exact (getElem?_flatMap_pair cellOpening "" (Nat.lt_of_succ_lt_succ bound)).2

theorem multiSeparators_zero (inhabited : labels ≠ []) :
    (multiSeparators opening labels)[0]? = some opening := by
  cases labels with
  | nil => exact absurd rfl inhabited
  | cons label labels => rfl

theorem multiSeparators_of_pos (positive : 0 < i) (known : labels[i]? = some label) :
    (multiSeparators opening labels)[i]? = some (between label) := by
  cases labels with
  | nil => cases known
  | cons first labels =>
    cases i with
    | zero => cases positive
    | succ i =>
      rw [multiSeparators, List.getElem?_cons_succ, List.getElem?_map]
      exact congrArg (Option.map between) known

theorem overwrite_of_length_le {new old : List String} (h : old.length ≤ new.length) :
    overwrite new old = new := by
  rw [overwrite, List.drop_eq_nil_of_le h, List.append_nil]

/-- The opening of a row in the table that a text calls for. -/
def rowOf (text : String) : String :=
  row (Text.split ',' text).tail

theorem rowOf_eq (text : String) :
    rowOf text =
      "\n|-\n|" ++ if (Text.split ',' text)[1]? = some "-" then "" else linkCell := by
  rw [rowOf, row, List.head?_tail]
  rfl

end Reading.Table

open Reading (Table.partSeparators Table.multiSeparators Table.rowOf)

namespace Specification

variable {s t : Specification} {labels : List String} {text : String} {last : Option String}

/-- The parts that a query shows are these, and the separators are those that the last table lays out
for them; without a table there are none. -/
structure LaidOut (s : Specification) (labels : List String) (last : Option String) : Prop where
  shown : s.value? "seclabels" = some (.list labels)
  parts : s.value? "secseparators" =
    last.map fun text => .list (Table.partSeparators (Table.rowOf text) labels)
  several : s.value? "multisecseparators" =
    last.map fun text => .list (Table.multiSeparators (Table.rowOf text) labels)

theorem LaidOut.congr (h : s.LaidOut labels last)
    (same : ∀ key ∈ ["seclabels", "secseparators", "multisecseparators"],
      t.value? key = s.value? key) : t.LaidOut labels last :=
  ⟨(same _ (by simp)).trans h.shown, (same _ (by simp)).trans h.parts,
    (same _ (by simp)).trans h.several⟩

/-- The separators that are there are no more than those that a table lays out. -/
private theorem LaidOut.overwrites (h : s.LaidOut labels last) (row : String) :
    Reading.Table.overwrite (Table.partSeparators row labels)
        ((s.list? "secseparators").getD []) = Table.partSeparators row labels ∧
      Reading.Table.overwrite (Table.multiSeparators row labels)
        ((s.list? "multisecseparators").getD []) = Table.multiSeparators row labels := by
  have parts := h.parts
  have several := h.several
  constructor
  · apply Reading.Table.overwrite_of_length_le
    cases last with
    | none => simp [list?, parts]
    | some text => simp [list?, parts, Reading.Table.length_partSeparators]
  · apply Reading.Table.overwrite_of_length_le
    cases last with
    | none => simp [list?, several]
    | some text => simp [list?, several, Reading.Table.length_multiSeparators]

theorem labels_not_written {change : Change} (taken : Reading.table s text = some change) :
    ∀ w ∈ change.writes, w.1 ≠ "seclabels" := by
  obtain rfl := Option.some.inj taken
  intro w written
  simp only [List.mem_append, List.mem_cons, List.not_mem_nil, or_false] at written
  rcases written with ((rfl | rfl | rfl | rfl) | written) | rfl
  · simp
  · simp
  · simp
  · simp
  · split at written
    · cases written
    · simp only [List.mem_cons, List.not_mem_nil, or_false] at written
      rcases written with rfl | rfl <;> simp
  · simp

theorem LaidOut.table (h : s.LaidOut labels last) (inhabited : labels ≠ []) {change : Change}
    (taken : Reading.table s text = some change) :
    (s.write change.writes).LaidOut labels (some text) := by
  obtain ⟨parts, several⟩ := h.overwrites (Table.rowOf text)
  have shown : s.list? "seclabels" = some labels := by rw [list?, h.shown]
  have nonempty : labels.isEmpty = false := by simpa using inhabited
  have kept := labels_not_written taken
  simp only [Reading.table, shown, Option.getD_some, nonempty, Bool.false_eq_true, if_false,
    Option.some.injEq] at taken
  subst taken
  refine ⟨?_, ?_, ?_⟩
  · rw [← h.shown]
    exact value?_write_of_forall_ne kept
  · simp only [write, value?, List.cons_append, List.nil_append, List.foldl_cons, List.foldl_nil,
      Std.ExtTreeMap.getElem?_insert, Std.compare_eq_iff_eq]
    exact congrArg (fun items => some (Value.list items)) parts
  · simp only [write, value?, List.cons_append, List.nil_append, List.foldl_cons, List.foldl_nil,
      Std.ExtTreeMap.getElem?_insert, Std.compare_eq_iff_eq]
    exact congrArg (fun items => some (Value.list items)) several

end Specification

/-- What is relied on about a table of parameters: who writes the parts that are shown and the
separators. -/
structure Registry.Layouts (r : Registry) : Prop where
  sections : ∀ p ∈ r.parameters, p.name = "include" ∨ p.name = "includepage" →
    p.handler = some .sections
  labels : ∀ p ∈ r.parameters, "seclabels" ∈ p.footprint →
    p.name = "include" ∨ p.name = "includepage" ∨ p.handler = some .table
  table : ∀ p ∈ r.parameters, p.name = "table" → p.handler = some .table
  separators : ∀ p ∈ r.parameters, ∀ key ∈ ["secseparators", "multisecseparators"],
    key ∈ p.footprint → p.name = key ∨ p.name = "table"
  seeds : ∀ p ∈ r.parameters, p.name ∉ ["secseparators", "multisecseparators"] ∨ p.seed? = none

theorem Registry.layouts_standard : Registry.standard.Layouts where
  sections := by decide +kernel
  labels := by decide +kernel
  table := by decide +kernel
  separators := by decide +kernel
  seeds := by decide +kernel

namespace Engine

variable {e : Engine} {s : Session} {name text : String} {pair : Pair} {pairs : List Pair}
  {labels : List String} {last : Option String}

/-- Only the parameters for the parts that are shown write them; a table just looks at them. -/
theorem labels_process (layouts : e.registry.Layouts) (apart : name ≠ "include")
    (apart' : name ≠ "includepage") (s : Session) (text : String) :
    (e.process s name text).1.spec.value? "seclabels" = s.spec.value? "seclabels" := by
  rcases e.value?_process_cases s name text "seclabels" with
    same | ⟨p, change, found, taken, -, w, written, key, -⟩
  · exact same
  · have touched := (Reading.writes_change? change taken).writes w written
    rw [key] at touched
    rcases layouts.labels p (mem_of_lookup found) touched with named | named | rules
    · exact absurd ((name_of_lookup found).symm.trans named) apart
    · exact absurd ((name_of_lookup found).symm.trans named) apart'
    · rw [Reading.change?, rules] at taken
      exact absurd key (Specification.labels_not_written taken w written)

/-- An accepted pair for the parts that are shown sets them. -/
theorem labels_of_answer (layouts : e.registry.Layouts)
    (shows : name = "include" ∨ name = "includepage") (taken : (e.process s name text).2 = none) :
    ((e.process s name text).1.spec.value? "seclabels").isSome = true := by
  obtain ⟨p, change, found, read, made⟩ := exists_change_of_answer taken
  rw [← name_of_lookup found] at shows
  have rules := layouts.sections p (mem_of_lookup found) shows
  rw [Reading.change?, rules] at read
  simp only [Reading.handled?, Reading.sections, Option.ite_none_left_eq_some,
    Option.some.injEq] at read
  obtain ⟨-, rfl⟩ := read
  rw [made, Session.spec_withVerbosity, Specification.value?_commit, Specification.write_cons,
    Specification.value?_write_of_forall_ne (by simp), Specification.value?_write_singleton,
    if_pos rfl]
  rfl

theorem separators_process (layouts : e.registry.Layouts) {key : String}
    (separator : key ∈ ["secseparators", "multisecseparators"]) (apart : name ≠ key)
    (apart' : name ≠ "table") (s : Session) (text : String) :
    (e.process s name text).1.spec.value? key = s.spec.value? key := by
  rcases e.value?_process_cases s name text key with
    same | ⟨p, change, found, taken, -, w, written, same, -⟩
  · exact same
  · have touched := (Reading.writes_change? change taken).writes w written
    rw [same] at touched
    rcases layouts.separators p (mem_of_lookup found) key separator touched with named | named
    · exact absurd ((name_of_lookup found).symm.trans named) apart
    · exact absurd ((name_of_lookup found).symm.trans named) apart'

/-- The names of the pairs that stand behind the parts that are shown, where the separators are not
set by hand. -/
def behindLabels (name : String) : Prop :=
  name ≠ "include" ∧ name ≠ "includepage" ∧ name ≠ "secseparators" ∧ name ≠ "multisecseparators"

theorem laidOut_process (text : String) (layouts : e.registry.Layouts) {p : Parameter}
    (found : e.lookup "table" = .ok p) (inhabited : labels ≠ []) (behind : behindLabels name)
    (h : s.spec.LaidOut labels last) :
    (e.process s name text).1.spec.LaidOut labels (if name = "table" then some text else last) := by
  obtain ⟨one, other, parts, several⟩ := behind
  split
  · rename_i tabled
    subst tabled
    have rules := layouts.table p (mem_of_lookup found) (name_of_lookup found)
    obtain ⟨change, read⟩ : ∃ change, Reading.table s.spec text = some change := ⟨_, rfl⟩
    have taken : Reading.change? e.settings e.host p s.spec text = some change := by
      rw [Reading.change?, rules]
      exact read
    rw [process_of_accepted found taken]
    exact (h.table inhabited read).congr fun key _ =>
      Specification.value?_write_congr change.writes rfl
  · rename_i tabled
    refine h.congr fun key member => ?_
    simp only [List.mem_cons, List.not_mem_nil, or_false] at member
    rcases member with rfl | rfl | rfl
    · exact labels_process layouts one other s text
    · exact separators_process layouts (by simp) parts tabled s text
    · exact separators_process layouts (by simp) several tabled s text

/-- Behind the parts that are shown, the last table lays out the separators. -/
theorem laidOut_run (layouts : e.registry.Layouts) {p : Parameter}
    (found : e.lookup "table" = .ok p) (inhabited : labels ≠ [])
    (behind : ∀ pair ∈ pairs, behindLabels pair.1) (h : s.spec.LaidOut labels last) :
    (e.run s pairs).spec.LaidOut labels
      (((pairs.filter fun pair => pair.1 == "table").getLast?.map (·.2)).or last) := by
  -- A table takes the place of the last one, any other pair leaves the layout as it is.
  induction pairs generalizing s last with
  | nil => exact h
  | cons pair pairs ih =>
    have step := laidOut_process pair.2 layouts found inhabited
      (behind pair List.mem_cons_self) h
    have rest := ih (fun other later => behind other (List.mem_cons_of_mem pair later)) step
    rw [run_cons]
    by_cases tabled : pair.1 = "table"
    · rw [List.filter_cons_of_pos (by simpa using tabled), List.getLast?_cons]
      rw [if_pos tabled] at rest
      cases later : (pairs.filter fun pair => pair.1 == "table").getLast? with
      | none => simpa [later] using rest
      | some other => simpa [later] using rest
    · rw [List.filter_cons_of_neg (by simpa using tabled)]
      rwa [if_neg tabled] at rest

/-- A fresh query has no separators, and the parts that are shown bring none. -/
theorem separators_front (layouts : e.registry.Layouts) {key : String}
    (separator : key ∈ ["secseparators", "multisecseparators"])
    (front : ∀ pair ∈ pairs, pair.1 ∈ Pair.priorityNames) :
    (e.run e.start pairs).spec.value? key = none := by
  have apart : ∀ name ∈ Pair.priorityNames, ∀ key ∈ ["secseparators", "multisecseparators"],
      name ≠ key ∧ name ≠ "table" := by decide
  have kept : ∀ pair ∈ pairs, ∀ s : Session,
      (e.process s pair.1 pair.2).1.spec.value? key = s.spec.value? key := by
    intro pair member s
    obtain ⟨other, other'⟩ := apart pair.1 (front pair member) key separator
    exact separators_process layouts separator other other' s pair.2
  rw [value?_run_of_forall kept, value?_start]
  cases found : e.registry.find? key with
  | none => rfl
  | some p =>
    obtain rfl := Registry.name_of_find? found
    rcases layouts.seeds p (Registry.mem_of_find? found) with other | unseeded
    · exact absurd separator other
    · exact unseeded

theorem labels_of_accepted (layouts : e.registry.Layouts) (member : pair ∈ e.accepted s pairs)
    (shows : pair.1 = "include" ∨ pair.1 = "includepage") :
    ((e.run s pairs).spec.value? "seclabels").isSome = true := by
  obtain ⟨before, after, rfl, taken⟩ := exists_of_mem_accepted member
  rw [run_append, run_cons]
  exact covers_run _ after "seclabels" (labels_of_answer layouts shows taken)

theorem lookup_of_accepted (member : pair ∈ e.accepted s pairs) : ∃ p, e.lookup pair.1 = .ok p := by
  obtain ⟨before, after, -, taken⟩ := exists_of_mem_accepted member
  obtain ⟨p, change, found, -⟩ := exists_change_of_answer taken
  exact ⟨p, found⟩

/-- Once all pairs are read in order, the last table has laid out the separators of all the parts that are
shown. -/
theorem laidOut_prioritized (standard : e.registry = .standard)
    (free : ∀ pair ∈ pairs, pair.1 ≠ "secseparators" ∧ pair.1 ≠ "multisecseparators")
    (shows : ∃ pair ∈ e.accepted e.start (Pair.prioritized pairs),
      pair.1 = "include" ∨ pair.1 = "includepage")
    (tabled : ∃ pair ∈ e.accepted e.start (Pair.prioritized pairs), pair.1 = "table") :
    ∃ labels table, labels ≠ [] ∧
      (pairs.filter fun pair => pair.1 == "table").getLast? = some table ∧
      (e.run e.start (Pair.prioritized pairs)).spec.LaidOut labels (some table.2) := by
  have layouts : e.registry.Layouts := standard ▸ Registry.layouts_standard
  obtain ⟨layout, given, tabled⟩ := tabled
  obtain ⟨p, found⟩ := lookup_of_accepted given
  rw [tabled] at found
  obtain ⟨shown, member, shows⟩ := shows
  obtain ⟨value, known⟩ := Option.isSome_iff_exists.mp (labels_of_accepted layouts member shows)
  have bounds : e.registry.Bounds := standard ▸ Registry.bounds_standard
  have within := (upholds_domain bounds).run (Pair.prioritized pairs)
  obtain ⟨labels, inhabited, rfl⟩ := within _ _ known
  obtain ⟨front, priority, split⟩ := Pair.prioritized_eq_append pairs
  have behind : ∀ pair ∈ pairs.filter fun p => !Pair.priorityNames.contains p.1,
      behindLabels pair.1 := by
    intro pair member
    obtain ⟨member, later⟩ := List.mem_filter.mp member
    have later : pair.1 ∉ Pair.priorityNames := by simpa using later
    refine ⟨?_, ?_, free pair member⟩
    · exact fun same => later (same ▸ by decide)
    · exact fun same => later (same ▸ by decide)
  rw [split, run_append] at known ⊢
  -- The parts that are shown are known once the front is read: no pair behind it sets them again.
  have start : (e.run e.start front).spec.LaidOut labels none := by
    refine ⟨?_, separators_front layouts (by simp) priority,
      separators_front layouts (by simp) priority⟩
    rw [← known, value?_run_of_forall fun pair member s =>
      labels_process layouts (behind pair member).1 (behind pair member).2.1 s pair.2]
  have laid := laidOut_run layouts found inhabited behind start
  have source : layout ∈ pairs.filter fun pair => pair.1 == "table" := by
    refine List.mem_filter.mpr ⟨?_, beq_iff_eq.mpr tabled⟩
    exact (Pair.prioritized_perm pairs).subset ((accepted_sublist _ _).subset given)
  have last := List.getLast?_eq_some_getLast (List.ne_nil_of_mem source)
  refine ⟨labels, _, inhabited, last, ?_⟩
  rwa [Pair.filter_name_of_not_mem (by decide), last] at laid

/-- The separators of a table fit all the parts that are shown, in whichever order the pairs stand.
-/
theorem processAll_table (standard : e.registry = .standard) {inOrder : List Pair} {after : Session}
    {warnings : List ParameterError} (order : Pair.sorted pairs = .ok inOrder)
    (read : e.processAll e.start inOrder = .ok (after, warnings))
    (free : ∀ pair ∈ pairs, pair.1 ≠ "secseparators" ∧ pair.1 ≠ "multisecseparators")
    (shows : ∃ pair ∈ e.accepted e.start inOrder, pair.1 = "include" ∨ pair.1 = "includepage")
    (tabled : ∃ pair ∈ e.accepted e.start inOrder, pair.1 = "table") :
    ∃ labels parts several table opening,
      after.spec.value? "seclabels" = some (.list labels) ∧
      after.spec.value? "secseparators" = some (.list parts) ∧
      after.spec.value? "multisecseparators" = some (.list several) ∧
      parts.length = 2 * labels.length ∧ several.length = labels.length ∧
      (pairs.filter fun pair => pair.1 == "table").getLast? = some table ∧
      (opening = "\n|-\n|" ++
        if (Text.split ',' table.2)[1]? = some "-" then "" else Reading.Table.linkCell) ∧
      parts[0]? = some opening ∧ several[0]? = some opening ∧
      (∀ i, 0 < i → i < labels.length → parts[2 * i]? = some "\n|") ∧
      (∀ i label, 0 < i → labels[i]? = some label → several[i]? =
        some (if label.toList.head? = some '#' then "\n----\n" else "<br/>\n")) ∧
      ∀ i, i < labels.length → parts[2 * i + 1]? = some "" := by
  obtain ⟨-, rfl, -⟩ := processAll_eq_ok_iff.mp read
  obtain ⟨-, rfl⟩ := Pair.sorted_eq_ok_iff.mp order
  obtain ⟨labels, table, inhabited, last, laid⟩ := laidOut_prioritized standard free shows tabled
  refine ⟨labels, _, _, table, Table.rowOf table.2, laid.shown, laid.parts, laid.several,
    Reading.Table.length_partSeparators _ _, Reading.Table.length_multiSeparators _ _, last,
    Reading.Table.rowOf_eq _, Reading.Table.partSeparators_zero inhabited,
    Reading.Table.multiSeparators_zero inhabited, ?_, ?_, ?_⟩
  · exact fun i positive bound => Reading.Table.partSeparators_even positive bound
  · exact fun i label positive known => Reading.Table.multiSeparators_of_pos positive known
  · exact fun i bound => Reading.Table.partSeparators_odd bound

theorem processAll_table_include :
    let e : Engine := ⟨.standard, {}, Site.host {}⟩
    let pairs := [("table", "wide,Page,Text"), ("include", "#Intro"), ("table", "nice,-,Text"),
      ("includepage", "#Intro,Body"), ("category", "Animals")]
    let spec := (e.run e.start (Pair.prioritized pairs)).spec
    ∃ labels parts several, spec.value? "seclabels" = some (.list labels) ∧
      spec.value? "secseparators" = some (.list parts) ∧
      spec.value? "multisecseparators" = some (.list several) ∧
      parts.length = 2 * labels.length ∧ parts[0]? = some "\n|-\n|" ∧
      several[0]? = some "\n|-\n|" := by
  intro e pairs spec
  have quiet : e.refused e.start (Pair.prioritized pairs) = [] := by decide +kernel
  have read : e.processAll e.start (Pair.prioritized pairs) =
      .ok (e.run e.start (Pair.prioritized pairs), []) :=
    processAll_eq_ok_iff.mpr ⟨by simp [quiet], rfl, by rw [quiet]; rfl⟩
  have order : Pair.sorted pairs = .ok (Pair.prioritized pairs) :=
    Pair.sorted_eq_ok_iff.mpr ⟨by decide, rfl⟩
  have all : e.accepted e.start (Pair.prioritized pairs) = Pair.prioritized pairs := by
    decide +kernel
  obtain ⟨labels, parts, several, table, opening, shown, known, known', length, -, last, row, first,
    first', -⟩ := processAll_table rfl order read (by decide) (by rw [all]; decide)
      (by rw [all]; decide)
  obtain rfl : ("table", "nice,-,Text") = table := Option.some.inj last
  have dash : opening = "\n|-\n|" := row.trans (by decide +kernel)
  rw [dash] at first first'
  exact ⟨labels, parts, several, shown, known, known', length, first, first'⟩

end Engine

end WikiQuery

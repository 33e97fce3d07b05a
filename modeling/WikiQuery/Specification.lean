import WikiQuery.Registry

/-!
What a query asks for: the values of its parameters, and what has been noted about it while they were
read. A change gathers all that one accepted parameter does to it.
-/

set_option autoImplicit false

namespace WikiQuery

/-- What a query asks for. -/
structure Specification where
  /-- The value of each parameter that has one. -/
  values : Std.ExtTreeMap String Value := ∅
  /-- Whether a parameter selects pages. -/
  selectionCriteriaFound : Bool := false
  /-- Whether a parameter cannot stand beside a listing of open references. -/
  openReferencesConflict : Bool := false
  /-- The parameters that were given. -/
  processed : Std.ExtTreeSet String := ∅
  deriving DecidableEq

/-- What an accepted parameter does: the values that it writes, in this order, the conflict that its
value brings, and the level of reports that it calls for. -/
structure Change where
  writes : List (String × Value)
  conflicts : Bool := false
  verbosity : Option Nat := none

namespace Specification

/-- The query that the values of a table start from. -/
def ofRegistry (r : Registry) : Specification where
  values := r.parameters.foldl
    (fun values p =>
      match p.seed? with
      | some value => values.insert p.name value
      | none => values)
    ∅

/-- The value of a parameter. -/
def value? (s : Specification) (name : String) : Option Value :=
  s.values[name]?

/-- Whether a parameter was given, and does not only have its default. -/
def wasSpecified (s : Specification) (name : String) : Bool :=
  s.processed.contains name

/-- The text that a parameter has for its value. -/
def text? (s : Specification) (name : String) : Option String :=
  match s.value? name with
  | some (.text t) => some t
  | _ => none

/-- Whether a parameter has the value true. -/
def flag (s : Specification) (name : String) : Bool :=
  decide (s.value? name = some (.bool true))

/-- The integer that a parameter has for its value. -/
def integer? (s : Specification) (name : String) : Option Int :=
  match s.value? name with
  | some (.int n) => some n
  | _ => none

/-- The list that a parameter has for its value. -/
def list? (s : Specification) (name : String) : Option (List String) :=
  match s.value? name with
  | some (.list items) => some items
  | _ => none

/-- The groups of pages that a parameter has for its value. -/
def pageGroups? (s : Specification) (name : String) : Option (List (List PageReference)) :=
  match s.value? name with
  | some (.pageGroups groups) => some groups
  | _ => none

/-- The namespaces that a parameter has for its value. -/
def namespaces? (s : Specification) (name : String) : Option (Std.ExtTreeSet Int) :=
  match s.value? name with
  | some (.namespaces ids) => some ids
  | _ => none

/-- The categories that a parameter has for its value. -/
def categories? (s : Specification) (name : String) : Option CategorySelector :=
  match s.value? name with
  | some (.categories selector) => some selector
  | _ => none

/-- The titles that a parameter has for its value. -/
def titles? (s : Specification) (name : String) : Option TitleSelector :=
  match s.value? name with
  | some (.titles selector) => some selector
  | _ => none

/-- The flags that a parameter has for its value. -/
def flags? (s : Specification) (name : String) : Option (Std.ExtTreeMap String Bool) :=
  match s.value? name with
  | some (.flags flags) => some flags
  | _ => none

/-- Whether pages are listed once only. -/
def distinctness (s : Specification) : Distinctness :=
  match s.value? "distinct" with
  | some (.distinct mode) => mode
  | _ => .on

/-- Whether links to pages are listed, and to which. -/
def openReferences (s : Specification) : OpenReferences :=
  match s.value? "openreferences" with
  | some (.openReferences mode) => mode
  | _ => .no

/-- The number of terms of a selector of categories, zero if the parameter has none. -/
def categoryCount (s : Specification) (name : String) : Nat :=
  match s.categories? name with
  | some selector => selector.termCount
  | none => 0

/-- The number of terms by which categories are asked for or shut out. -/
def totalCategoryCount (s : Specification) : Nat :=
  s.categoryCount "category" + s.categoryCount "notcategory"

/-- The query with the values that are written, one after the other. -/
def write (s : Specification) (writes : List (String × Value)) : Specification :=
  { s with values := writes.foldl (fun values w => values.insert w.1 w.2) s.values }

/-- The query in which a parameter is noted as given. -/
def mark (s : Specification) (name : String) : Specification :=
  { s with processed := s.processed.insert name }

/-- The query after a change that a parameter makes, with what is laid down about the parameter. -/
def commit (s : Specification) (p : Parameter) (change : Change) : Specification :=
  let s := s.write change.writes
  { s with
    selectionCriteriaFound := s.selectionCriteriaFound || p.selects
    openReferencesConflict := s.openReferencesConflict || change.conflicts || p.conflicts }

@[simp] theorem value?_mark (s : Specification) (name key : String) :
    (s.mark name).value? key = s.value? key :=
  rfl

@[simp] theorem processed_mark (s : Specification) (name : String) :
    (s.mark name).processed = s.processed.insert name :=
  rfl

@[simp] theorem selectionCriteriaFound_mark (s : Specification) (name : String) :
    (s.mark name).selectionCriteriaFound = s.selectionCriteriaFound :=
  rfl

@[simp] theorem openReferencesConflict_mark (s : Specification) (name : String) :
    (s.mark name).openReferencesConflict = s.openReferencesConflict :=
  rfl

@[simp] theorem processed_write (s : Specification) (writes : List (String × Value)) :
    (s.write writes).processed = s.processed :=
  rfl

@[simp] theorem processed_commit (s : Specification) (p : Parameter) (change : Change) :
    (s.commit p change).processed = s.processed :=
  rfl

@[simp] theorem selectionCriteriaFound_commit (s : Specification) (p : Parameter)
    (change : Change) :
    (s.commit p change).selectionCriteriaFound = (s.selectionCriteriaFound || p.selects) :=
  rfl

@[simp] theorem openReferencesConflict_commit (s : Specification) (p : Parameter)
    (change : Change) :
    (s.commit p change).openReferencesConflict =
      (s.openReferencesConflict || change.conflicts || p.conflicts) :=
  rfl

@[simp] theorem value?_commit (s : Specification) (p : Parameter) (change : Change) (key : String) :
    (s.commit p change).value? key = (s.write change.writes).value? key :=
  rfl

theorem write_cons (s : Specification) (w : String × Value) (writes : List (String × Value)) :
    s.write (w :: writes) = (s.write [w]).write writes :=
  rfl

theorem value?_write_singleton (s : Specification) (w : String × Value) (key : String) :
    (s.write [w]).value? key = if w.1 = key then some w.2 else s.value? key := by
  unfold write value?
  simp [Std.ExtTreeMap.getElem?_insert]

/-- A parameter that is not written to keeps its value. -/
theorem value?_write_of_forall_ne {s : Specification} {writes : List (String × Value)}
    {key : String} (h : ∀ w ∈ writes, w.1 ≠ key) : (s.write writes).value? key = s.value? key := by
  induction writes generalizing s with
  | nil => rfl
  | cons w writes ih =>
    rw [write_cons, ih fun v hv => h v (List.mem_cons_of_mem w hv), value?_write_singleton,
      if_neg (h w List.mem_cons_self)]

/-- What is written does not depend on the values that a query has so far. -/
theorem value?_write_congr {s t : Specification} {key : String}
    (writes : List (String × Value)) (h : s.value? key = t.value? key) :
    (s.write writes).value? key = (t.write writes).value? key := by
  induction writes generalizing s t with
  | nil => exact h
  | cons w writes ih =>
    rw [write_cons, t.write_cons]
    apply ih
    simp only [value?_write_singleton, h]

/-- A query is what is said of each of its values, and what was noted about it. -/
theorem eq_of_value? {s t : Specification} (values : ∀ key, s.value? key = t.value? key)
    (selects : s.selectionCriteriaFound = t.selectionCriteriaFound)
    (conflicts : s.openReferencesConflict = t.openReferencesConflict)
    (processed : s.processed = t.processed) : s = t := by
  have same : s.values = t.values := Std.ExtTreeMap.ext_getElem? fun key => values key
  cases s
  cases t
  simp_all

end Specification

end WikiQuery

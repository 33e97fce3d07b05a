import Mathlib.Tactic.SplitIfs
import WikiQuery.Reading

/-!
What a parameter touches of a query. Its footprint are the keys that it reads or writes: it writes
to no other key, and nothing but their values decides whether its text is taken and what is written.
-/

set_option autoImplicit false

namespace WikiQuery

/-- The keys that the rules of a handler read or write, for a parameter of a given name. -/
def Handler.footprint (name : String) : Handler → List String
  | .category => ["category", "catheadings", "catnotheadings", "includeuncat"]
  | .notCategory => ["notcategory"]
  | .categoryPattern side _ => [Reading.categoryKeyOf side]
  | .orderMethod => ["ordermethod"]
  | .mode => ["mode", "inlinetext"]
  | .distinct => ["distinct"]
  | .orderCollation => ["ordercollation", "ordersuitsymbols"]
  | .format => ["listseparators", "mode", "inlinetext"]
  | .title => ["title", "namespace", "mode", "ordermethod"]
  | .notTitle => ["nottitle"]
  | .titlePattern side _ => [Reading.titleKeyOf side]
  | .inNamespace side => [Reading.namespaceKeyOf side]
  | .scroll => ["scroll", "titlegt", "titlelt", "scrolldir", "count"]
  | .allowCachedResults => ["allowcachedresults", "warncachedresults", "execandexit"]
  | .flagSet => [name]
  | .sections => ["seclabels", "incpage"]
  | .sectionMatch parsed negated =>
    (if negated then "seclabelsnotmatch" else "seclabelsmatch") ::
      if parsed then ["incparsed"] else []
  | .table => ["table", "seclabels", "secseparators", "multisecseparators",
      "defaulttemplatesuffix", "mode", "inlinetext", "listseparators"]
  | .tableRow => ["tablerow"]
  | .sectionSeparators => ["secseparators"]
  | .multiSectionSeparators => ["multisecseparators"]
  | .count => ["count"]
  | .debug => ["debug"]
  | .openReferences => ["openreferences"]
  | .replaceInTitle => ["replaceintitle"]

/-- The keys that a parameter reads or writes: its own key, if it is read in the common way. -/
def Parameter.footprint (p : Parameter) : List String :=
  match p.handler with
  | some handler => handler.footprint p.name
  | none => [p.name]

namespace Reading

section Makes

variable {good : Change → Prop}

/-- Whatever change a reading makes is a good one. -/
def Makes (good : Change → Prop) (reading : Option Change) : Prop :=
  ∀ change ∈ reading, good change

theorem makes_none : Makes good none := by
  intro change h
  cases h

theorem makes_some {change : Change} (h : good change) : Makes good (some change) := by
  intro made member
  obtain rfl := Option.some.inj member
  exact h

theorem makes_map {α : Type} {value : Option α} {change : α → Change}
    (h : ∀ a ∈ value, good (change a)) : Makes good (value.map change) := by
  intro made member
  obtain ⟨a, found, rfl⟩ := Option.map_eq_some_iff.mp member
  exact h a found

theorem makes_ite {c : Prop} [Decidable c] {one other : Option Change}
    (h : c → Makes good one) (h' : ¬c → Makes good other) :
    Makes good (if c then one else other) := by
  split
  · exact h ‹_›
  · exact h' ‹_›

end Makes

/-- A change writes to some keys only. The level of reports counts as written to the key `debug`. -/
structure Within (keys : List String) (change : Change) : Prop where
  writes : ∀ w ∈ change.writes, w.1 ∈ keys
  verbosity : change.verbosity ≠ none → "debug" ∈ keys

/-- What a reading writes, if it takes its text, is written to some keys. -/
def Writes (keys : List String) (reading : Option Change) : Prop :=
  ∀ change ∈ reading, Within keys change

theorem within_of_quiet {keys : List String} {change : Change}
    (writes : ∀ w ∈ change.writes, w.1 ∈ keys) (quiet : change.verbosity = none) :
    Within keys change :=
  ⟨writes, fun loud => absurd quiet loud⟩

theorem writes_none {keys : List String} : Writes keys none :=
  makes_none

theorem writes_some {keys : List String} {change : Change} (h : Within keys change) :
    Writes keys (some change) :=
  makes_some h

theorem writes_map {α : Type} {keys : List String} {value : Option α} {change : α → Change}
    (h : ∀ a, Within keys (change a)) : Writes keys (value.map change) :=
  makes_map fun a _ => h a

theorem writes_ite {keys : List String} {c : Prop} [Decidable c] {one other : Option Change}
    (h : Writes keys one) (h' : Writes keys other) : Writes keys (if c then one else other) :=
  makes_ite (fun _ => h) fun _ => h'

theorem heading_mem {cs : List Char} {key : String} (h : (headingOf cs).1 = some key) :
    key = "catheadings" ∨ key = "catnotheadings" := by
  unfold headingOf at h
  split at h
  · exact .inl (Option.some.inj h).symm
  · exact .inr (Option.some.inj h).symm
  · cases h

/-- What a line of categories may write. -/
inductive CategoryWrite (host : Host) (spec : Specification) : String × Value → Prop
  | group (isAnd : Bool) {terms : List (List Char)} (inhabited : groupOf host terms ≠ []) :
    CategoryWrite host spec ("category",
      .categories (withGroup (categoriesOf spec "category") isAnd (groupOf host terms)))
  | headings {key : String} (heading : key = "catheadings" ∨ key = "catnotheadings")
      (terms : List (List Char)) :
    CategoryWrite host spec (key, .list (withNew ((spec.list? key).getD []) (groupOf host terms)))
  | uncategorized : CategoryWrite host spec ("includeuncat", .bool true)

theorem makes_category {host : Host} {spec : Specification} {text : String} :
    Makes (fun change => change.verbosity = none ∧ ∀ w ∈ change.writes, CategoryWrite host spec w)
      (category host spec text) := by
  simp only [category]
  refine makes_ite (fun _ => makes_none) fun _ => makes_ite (fun _ => makes_none) fun _ =>
    makes_some ⟨rfl, fun w written => ?_⟩
  rcases List.mem_append.mp written with written | written
  · unfold groupWrites at written
    split at written
    · cases written
    · rename_i inhabited
      rcases List.mem_cons.mp written with rfl | written
      · exact .group _ (by simpa using inhabited)
      · split at written
        · rename_i heading
          obtain rfl := List.mem_singleton.mp written
          exact .headings (heading_mem heading) _
        · cases written
  · split at written
    · obtain rfl := List.mem_singleton.mp written
      exact .uncategorized
    · cases written

theorem writes_category {host : Host} {spec : Specification} {text : String} :
    Writes ["category", "catheadings", "catnotheadings", "includeuncat"]
      (category host spec text) := by
  intro change taken
  obtain ⟨quiet, writes⟩ := makes_category change taken
  refine within_of_quiet (fun w written => ?_) quiet
  cases writes w written with
  | group => simp
  | headings heading => rcases heading with rfl | rfl <;> simp
  | uncategorized => simp

theorem writes_scroll {settings : Settings} {host : Host} {text : String} :
    Writes ["scroll", "titlegt", "titlelt", "scrolldir", "count"]
      (scroll settings host text) := by
  refine writes_map fun enabled => within_of_quiet (fun w member => ?_) rfl
  cases enabled with
  | false => simp_all
  | true =>
    simp only [scrollWrites, if_true, List.mem_cons, List.mem_append, Option.mem_toList,
      Option.map_eq_some_iff] at member
    rcases member with rfl | ((⟨_, -, rfl⟩ | ⟨_, -, rfl⟩) | ⟨_, -, rfl⟩) | ⟨_, -, rfl⟩ <;> simp

theorem writes_table {spec : Specification} {text : String} :
    Writes ["table", "seclabels", "secseparators", "multisecseparators", "defaulttemplatesuffix",
      "mode", "inlinetext", "listseparators"] (table spec text) := by
  simp only [table]
  refine writes_some (within_of_quiet (fun w member => ?_) rfl)
  simp only [List.mem_append, List.mem_cons, List.not_mem_nil, or_false] at member
  rcases member with ((rfl | rfl | rfl | rfl) | member) | rfl
  · simp
  · simp
  · simp
  · simp
  · split at member
    · simp at member
    · simp only [List.mem_cons, List.not_mem_nil, or_false] at member
      rcases member with rfl | rfl <;> simp
  · simp

/-- The rules of a handler write within its footprint. -/
theorem writes_handled? {settings : Settings} {host : Host} {p : Parameter} {spec : Specification}
    {text : String} (handler : Handler) :
    Writes (handler.footprint p.name) (handled? settings host p spec text handler) := by
  cases handler with
  | category => exact writes_category
  | scroll => exact writes_scroll
  | table => exact writes_table
  | notCategory | title | notTitle | inNamespace | count =>
    refine writes_map fun _ => within_of_quiet ?_ rfl
    simp [Handler.footprint]
  | categoryPattern | format | tableRow | sectionSeparators | multiSectionSeparators =>
    refine writes_some (within_of_quiet ?_ rfl)
    simp [Handler.footprint]
  | sectionMatch parsed negated =>
    refine writes_some (within_of_quiet ?_ rfl)
    cases parsed <;> simp [Handler.footprint]
  | distinct | openReferences =>
    simp only [handled?, distinct, openReferences]
    refine writes_map fun _ => within_of_quiet ?_ rfl
    simp [Handler.footprint]
  | orderMethod =>
    simp only [handled?, orderMethod]
    refine writes_ite (writes_some (within_of_quiet ?_ rfl)) writes_none
    simp [Handler.footprint]
  | mode | orderCollation =>
    simp only [handled?, mode, orderCollation]
    refine writes_ite writes_none (writes_some (within_of_quiet ?_ rfl))
    split_ifs <;> simp [Handler.footprint]
  | titlePattern | sections | flagSet =>
    simp only [handled?, titlePattern, sections, flagSet]
    refine writes_ite writes_none (writes_some (within_of_quiet ?_ rfl))
    simp [Handler.footprint]
  | allowCachedResults =>
    simp only [handled?, allowCachedResults]
    refine writes_ite (writes_some (within_of_quiet ?_ rfl)) (writes_ite
      (writes_some (within_of_quiet ?_ rfl)) (writes_map fun _ => within_of_quiet ?_ rfl))
    all_goals simp [Handler.footprint]
  | debug =>
    simp only [handled?, debug]
    refine writes_ite writes_none (writes_map fun _ => ⟨?_, fun _ => ?_⟩)
    all_goals simp [Handler.footprint]
  | replaceInTitle =>
    simp only [handled?, replaceInTitle]
    split
    · exact writes_none
    · refine writes_ite writes_none (writes_some (within_of_quiet ?_ rfl))
      simp [Handler.footprint]

private theorem list?_congr {s t : Specification} {key : String}
    (h : s.value? key = t.value? key) : s.list? key = t.list? key := by
  simp only [Specification.list?, h]

private theorem groupWrites_congr {s t : Specification}
    (h : ∀ key ∈ ["category", "catheadings", "catnotheadings"], s.value? key = t.value? key)
    (cs : List Char) (isAnd : Bool) (group : List String) :
    groupWrites s (headingOf cs).1 isAnd group = groupWrites t (headingOf cs).1 isAnd group := by
  have selector : categoriesOf s "category" = categoriesOf t "category" := by
    simp only [categoriesOf, Specification.categories?, h "category" (by simp)]
  unfold groupWrites
  rw [selector]
  cases heading : (headingOf cs).1 with
  | none => rfl
  | some key =>
    have same : s.value? key = t.value? key := by
      rcases heading_mem heading with rfl | rfl <;> exact h _ (by simp)
    simp only [list?_congr same]

private theorem table_congr {s t : Specification} {text : String}
    (h : ∀ key ∈ ["seclabels", "secseparators", "multisecseparators"],
      s.value? key = t.value? key) : table s text = table t text := by
  have labels := list?_congr (h "seclabels" (by simp))
  have parts := list?_congr (h "secseparators" (by simp))
  have several := list?_congr (h "multisecseparators" (by simp))
  simp only [table, labels, parts, several]

/-- The rules of a handler read nothing of a query but its footprint. -/
theorem handled?_congr {settings : Settings} {host : Host} {p : Parameter} {text : String}
    (handler : Handler) {s t : Specification}
    (h : ∀ key ∈ handler.footprint p.name, s.value? key = t.value? key) :
    handled? settings host p s text handler = handled? settings host p t text handler := by
  cases handler with
  | category =>
    have within : ["category", "catheadings", "catnotheadings"] ⊆
        Handler.footprint p.name .category := by simp [Handler.footprint]
    have same := groupWrites_congr fun key member => h key (within member)
    simp only [handled?, category, same]
  | table =>
    have within : ["seclabels", "secseparators", "multisecseparators"] ⊆
        Handler.footprint p.name .table := by simp [Handler.footprint]
    exact table_congr fun key member => h key (within member)
  | allowCachedResults =>
    have same : s.value? "execandexit" = t.value? "execandexit" := h _ (by simp [Handler.footprint])
    simp only [handled?, allowCachedResults, same]
  | notCategory | categoryPattern =>
    have same := h _ List.mem_cons_self
    simp only [handled?, notCategory, categoryPattern, categoriesOf, Specification.categories?,
      same]
  | title | notTitle | titlePattern =>
    have same := h _ List.mem_cons_self
    simp only [handled?, title, notTitle, titlePattern, titlesOf, Specification.titles?, same]
  | inNamespace =>
    have same := h _ List.mem_cons_self
    simp only [handled?, inNamespace, Specification.namespaces?, same]
  | flagSet =>
    have same := h _ List.mem_cons_self
    simp only [handled?, flagSet, Specification.flags?, same]
  | _ => rfl

private theorem staged?_congr {host : Host} {p : Parameter} {text : String} {s t : Specification}
    (h : s.value? p.name = t.value? p.name) : staged? host p s text = staged? host p t text := by
  have groups : s.pageGroups? p.name = t.pageGroups? p.name := by
    simp only [Specification.pageGroups?, h]
  have textual : textualValue? host p s = textualValue? host p t := by
    funext value
    simp only [textualValue?, groups]
  simp only [staged?, textual]

/-- A parameter writes within its footprint. -/
theorem writes_change? {settings : Settings} {host : Host} {p : Parameter} {spec : Specification}
    {text : String} : Writes p.footprint (change? settings host p spec text) := by
  unfold change? Parameter.footprint
  cases p.handler with
  | some handler => exact writes_handled? handler
  | none =>
    refine writes_map fun value => within_of_quiet ?_ rfl
    simp

/-- A parameter reads nothing of a query but its footprint. -/
theorem change?_congr (settings : Settings) (host : Host) (text : String) {p : Parameter}
    {s t : Specification} (h : ∀ key ∈ p.footprint, s.value? key = t.value? key) :
    change? settings host p s text = change? settings host p t text := by
  unfold Parameter.footprint at h
  unfold change?
  cases rules : p.handler with
  | some handler =>
    rw [rules] at h
    exact handled?_congr handler h
  | none =>
    rw [rules] at h
    have same := h p.name List.mem_cons_self
    simp only [staged?_congr same]

@[simp] theorem change?_mark {settings : Settings} {host : Host} {p : Parameter}
    {spec : Specification} {name text : String} :
    change? settings host p (spec.mark name) text = change? settings host p spec text :=
  change?_congr settings host text fun _ _ => rfl

end Reading

end WikiQuery

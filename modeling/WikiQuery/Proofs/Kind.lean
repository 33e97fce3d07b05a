import WikiQuery.Proofs.Staging

/-!
The kinds of values. Each key that a query can hold has one kind of value, whichever parameter wrote
it, so nothing that a query has gathered is passed over for being of another kind than expected.
-/

set_option autoImplicit false

namespace WikiQuery

/-- The kinds of values. -/
inductive Value.Kind
  | bool | int | text | list | pageGroups | namespaces | categories | titles | flags | distinct
  | openReferences
  deriving DecidableEq, Repr

/-- The kind of a value. -/
def Value.kind : Value → Value.Kind
  | .bool _ => .bool
  | .int _ => .int
  | .text _ => .text
  | .list _ => .list
  | .pageGroups _ => .pageGroups
  | .namespaces _ => .namespaces
  | .categories _ => .categories
  | .titles _ => .titles
  | .flags _ => .flags
  | .distinct _ => .distinct
  | .openReferences _ => .openReferences

/-- The kind of value of a parameter that is read in the common way. -/
def Parameter.commonKind (p : Parameter) : Value.Kind :=
  if p.isInteger then .int
  else if p.isBoolean then .bool
  else if p.pageNames.isSome then .pageGroups
  else if p.pattern.isSome then .list
  else .text

/-- The keys that are written by rules of their own, kind by kind. -/
def handledKeys : List (Value.Kind × List String) := [
  (.categories, ["category", "notcategory"]),
  (.titles, ["title", "nottitle"]),
  (.namespaces, ["namespace", "notnamespace"]),
  (.flags, ["reset", "eliminate"]),
  (.distinct, ["distinct"]),
  (.openReferences, ["openreferences"]),
  (.int, ["count", "debug"]),
  (.bool, ["scroll", "allowcachedresults", "warncachedresults", "includeuncat", "ordersuitsymbols",
    "incpage", "incparsed"]),
  (.list, ["ordermethod", "listseparators", "seclabels", "seclabelsmatch", "seclabelsnotmatch",
    "secseparators", "multisecseparators", "tablerow", "replaceintitle", "catheadings",
    "catnotheadings"]),
  (.text, ["mode", "scrolldir", "ordercollation", "defaulttemplatesuffix", "table"])]

/-- The kind of value that a key has: that of its group, or that of the parameter of its name, if this
one is read in the common way. No other key is known. -/
def Registry.kindOf? (r : Registry) (key : String) : Option Value.Kind :=
  match handledKeys.find? (·.2.contains key) with
  | some group => some group.1
  | none => ((r.find? key).filter (·.handler.isNone)).map (·.commonKind)

/-- The keys that the rules of a handler write, with the kinds of what they write, for a parameter of
a given name. -/
def Handler.layout (name : String) : Handler → List (String × Value.Kind)
  | .category => [("category", .categories), ("catheadings", .list), ("catnotheadings", .list),
      ("includeuncat", .bool)]
  | .notCategory => [("notcategory", .categories)]
  | .categoryPattern side _ => [(Reading.categoryKeyOf side, .categories)]
  | .orderMethod => [("ordermethod", .list)]
  | .mode => [("mode", .text), ("inlinetext", .text)]
  | .distinct => [("distinct", .distinct)]
  | .orderCollation => [("ordercollation", .text), ("ordersuitsymbols", .bool)]
  | .format => [("listseparators", .list), ("mode", .text), ("inlinetext", .text)]
  | .title => [("title", .titles), ("namespace", .namespaces), ("mode", .text),
      ("ordermethod", .list)]
  | .notTitle => [("nottitle", .titles)]
  | .titlePattern side _ => [(Reading.titleKeyOf side, .titles)]
  | .inNamespace side => [(Reading.namespaceKeyOf side, .namespaces)]
  | .scroll => [("scroll", .bool), ("titlegt", .text), ("titlelt", .text), ("scrolldir", .text),
      ("count", .int)]
  | .allowCachedResults => [("allowcachedresults", .bool), ("warncachedresults", .bool)]
  | .flagSet => [(name, .flags)]
  | .sections => [("seclabels", .list), ("incpage", .bool)]
  | .sectionMatch _ _ => [("seclabelsnotmatch", .list), ("seclabelsmatch", .list),
      ("incparsed", .bool)]
  | .table => [("defaulttemplatesuffix", .text), ("mode", .text), ("inlinetext", .text),
      ("listseparators", .list), ("secseparators", .list), ("multisecseparators", .list),
      ("table", .text)]
  | .tableRow => [("tablerow", .list)]
  | .sectionSeparators => [("secseparators", .list)]
  | .multiSectionSeparators => [("multisecseparators", .list)]
  | .count => [("count", .int)]
  | .debug => [("debug", .int)]
  | .openReferences => [("openreferences", .openReferences)]
  | .replaceInTitle => [("replaceintitle", .list)]

/-- The keys that a parameter writes, with the kinds of what it writes. -/
def Parameter.layout (p : Parameter) : List (String × Value.Kind) :=
  match p.handler with
  | some handler => handler.layout p.name
  | none => [(p.name, p.commonKind)]

namespace Reading

variable {settings : Settings} {host : Host} {p : Parameter} {spec : Specification} {text : String}

/-- A change writes to some keys only, and to each of them values of its kind. -/
def LaidOut (layout : List (String × Value.Kind)) (change : Change) : Prop :=
  ∀ w ∈ change.writes, (w.1, w.2.kind) ∈ layout

private theorem laidOut_category :
    Makes (LaidOut (Handler.layout p.name .category)) (category host spec text) := by
  intro change taken w written
  cases (makes_category change taken).2 w written with
  | group => simp [Handler.layout, Value.kind]
  | headings heading => rcases heading with rfl | rfl <;> simp [Handler.layout, Value.kind]
  | uncategorized => simp [Handler.layout, Value.kind]

private theorem laidOut_scroll :
    Makes (LaidOut (Handler.layout p.name .scroll)) (scroll settings host text) := by
  refine makes_map fun enabled _ w member => ?_
  cases enabled with
  | false =>
    obtain rfl := List.mem_singleton.mp member
    simp [Handler.layout, Value.kind]
  | true =>
    simp only [scrollWrites, if_true, List.mem_cons, List.mem_append, Option.mem_toList,
      Option.map_eq_some_iff] at member
    rcases member with rfl | ((⟨_, -, rfl⟩ | ⟨_, -, rfl⟩) | ⟨_, -, rfl⟩) | ⟨_, -, rfl⟩ <;>
      simp [Handler.layout, Value.kind]

private theorem laidOut_table :
    Makes (LaidOut (Handler.layout p.name .table)) (table spec text) := by
  simp only [table]
  refine makes_some fun w member => ?_
  simp only [List.mem_append, List.mem_cons, List.not_mem_nil, or_false] at member
  rcases member with ((rfl | rfl | rfl | rfl) | member) | rfl
  · simp [Handler.layout, Value.kind]
  · simp [Handler.layout, Value.kind]
  · simp [Handler.layout, Value.kind]
  · simp [Handler.layout, Value.kind]
  · split at member
    · cases member
    · simp only [List.mem_cons, List.not_mem_nil, or_false] at member
      rcases member with rfl | rfl <;> simp [Handler.layout, Value.kind]
  · simp [Handler.layout, Value.kind]

/-- The rules of a handler write what its layout has. -/
theorem laidOut_handled? (handler : Handler) :
    Makes (LaidOut (handler.layout p.name)) (handled? settings host p spec text handler) := by
  cases handler with
  | category => exact laidOut_category
  | scroll => exact laidOut_scroll
  | table => exact laidOut_table
  | notCategory | title | notTitle | inNamespace | count =>
    refine makes_map fun _ _ => ?_
    simp [LaidOut, Handler.layout, Value.kind]
  | categoryPattern | format | tableRow | sectionSeparators | multiSectionSeparators =>
    refine makes_some ?_
    simp [LaidOut, Handler.layout, Value.kind]
  | sectionMatch parsed negated =>
    refine makes_some ?_
    cases parsed <;> cases negated <;> simp [LaidOut, Handler.layout, Value.kind]
  | distinct | openReferences =>
    simp only [handled?, distinct, openReferences]
    refine makes_map fun _ _ => ?_
    simp [LaidOut, Handler.layout, Value.kind]
  | orderMethod =>
    simp only [handled?, orderMethod]
    refine makes_ite (fun _ => makes_some ?_) fun _ => makes_none
    simp [LaidOut, Handler.layout, Value.kind]
  | mode | orderCollation =>
    simp only [handled?, mode, orderCollation]
    refine makes_ite (fun _ => makes_none) fun _ => makes_some ?_
    split_ifs <;> simp [LaidOut, Handler.layout, Value.kind]
  | titlePattern | sections | flagSet =>
    simp only [handled?, titlePattern, sections, flagSet]
    refine makes_ite (fun _ => makes_none) fun _ => makes_some ?_
    simp [LaidOut, Handler.layout, Value.kind]
  | allowCachedResults =>
    simp only [handled?, allowCachedResults]
    refine makes_ite (fun _ => makes_some ?_) fun _ => makes_ite (fun _ => makes_some ?_) fun _ =>
      makes_map fun _ _ => ?_
    all_goals simp [LaidOut, Handler.layout, Value.kind]
  | debug =>
    simp only [handled?, debug]
    refine makes_ite (fun _ => makes_none) fun _ => makes_map fun _ _ => ?_
    simp [LaidOut, Handler.layout, Value.kind]
  | replaceInTitle =>
    simp only [handled?, replaceInTitle]
    split
    · exact makes_none
    · refine makes_ite (fun _ => makes_none) fun _ => makes_some ?_
      simp [LaidOut, Handler.layout, Value.kind]

/-- The common way to read a parameter gives values of its kind. -/
theorem kind_staged? {value : Value} (h : staged? host p spec text = some value) :
    value.kind = p.commonKind := by
  cases (stagedAs_of_staged? h).2 with
  | int integer => simp [Parameter.commonKind, integer, Value.kind]
  | bool other boolean => simp [Parameter.commonKind, other, boolean, Value.kind]
  | pages other listed => simp [Parameter.commonKind, other, listed, Value.kind]
  | captured other unlisted pattern =>
    simp [Parameter.commonKind, other, unlisted, pattern, Value.kind]
  | plain other unlisted free => simp [Parameter.commonKind, other, unlisted, free, Value.kind]

/-- A parameter writes what its layout has. -/
theorem laidOut_change? : Makes (LaidOut p.layout) (change? settings host p spec text) := by
  unfold change? Parameter.layout
  cases p.handler with
  | some handler => exact laidOut_handled? handler
  | none =>
    refine makes_map fun value staged => ?_
    simp [LaidOut, kind_staged? staged]

end Reading

/-- The parameters of a table agree on the kinds of the keys that they write, and so do the seeds. -/
structure Registry.Typed (r : Registry) : Prop where
  seeds : ∀ p ∈ r.parameters, ∀ value ∈ p.seed?, r.kindOf? p.name = some value.kind
  layouts : ∀ p ∈ r.parameters, ∀ entry ∈ p.layout, r.kindOf? entry.1 = some entry.2

theorem Registry.typed_standard : Registry.standard.Typed where
  seeds := by decide +kernel
  layouts := by decide +kernel

namespace Engine

variable {e : Engine}

/-- Tables whose parameters agree on the kinds of keys have well-typed queries only. -/
theorem upholds_kindOf? (typed : e.registry.Typed) :
    e.Upholds fun key value => e.registry.kindOf? key = some value.kind where
  seeds := typed.seeds
  changes := by
    intro p member spec _ _ text change taken w written
    exact typed.layouts p member _ (Reading.laidOut_change? change taken w written)

/-- Every query that pairs come to is well typed: each key that it holds is a known one, and the value
is of the kind that this key has. -/
theorem kind_run (standard : e.registry = .standard) (pairs : List Pair) (key : String)
    (value : Value) (found : (e.run e.start pairs).spec.value? key = some value) :
    Registry.standard.kindOf? key = some value.kind := by
  have typed : e.registry.Typed := standard ▸ Registry.typed_standard
  have upheld := (upholds_kindOf? typed).run pairs key value found
  rwa [standard] at upheld

theorem kind_run_title_table :
    let e : Engine := ⟨.standard, {}, Site.host { request := .ofList [("DPL_count", "7")] }⟩
    let pairs := [("title", "Help:Contents"), ("include", "Intro,Body"), ("table", "nice,-,Name"),
      ("scroll", "yes"), ("mode", "bogus"), ("category", "+Cats&Dogs")]
    (e.run e.start pairs).spec.value? "catheadings" = some (.list ["Cats", "Dogs"]) ∧
      Registry.standard.kindOf? "catheadings" = some .list ∧
      (e.run e.start pairs).spec.value? "count" = some (.int 7) ∧
      Registry.standard.kindOf? "count" = some .int := by
  intro e pairs
  have headings : (e.run e.start pairs).spec.value? "catheadings" =
      some (.list ["Cats", "Dogs"]) := by decide +kernel
  have count : (e.run e.start pairs).spec.value? "count" = some (.int 7) := by decide +kernel
  exact ⟨headings, kind_run rfl pairs _ _ headings, count, kind_run rfl pairs _ _ count⟩

end Engine

end WikiQuery

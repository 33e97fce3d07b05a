import WikiQuery.Proofs.Kind

/-!
What a query gathers. Several parameters may add to one value: to the groups, patterns and titles of a
selector, to the headings, to the groups of pages, and to the namespaces that are not wanted. What was
gathered stays, in its order, and more only comes behind it.
-/

set_option autoImplicit false

namespace WikiQuery

/-- A selector has more behind what it had, in each of its parts. -/
structure CategorySelector.GrowsTo (old new : CategorySelector) : Prop where
  allOf : old.allOf <+: new.allOf
  anyOf : old.anyOf <+: new.anyOf
  regexp : old.regexp <+: new.regexp
  like : old.like <+: new.like

/-- A selector has more behind what it had, in each of its parts. -/
structure TitleSelector.GrowsTo (old new : TitleSelector) : Prop where
  exact : old.exact <+: new.exact
  regexp : old.regexp <+: new.regexp
  like : old.like <+: new.like

/-- A value has more behind what it had; a set of namespaces has more among them. -/
inductive Value.GrowsTo : Value → Value → Prop
  | categories {old new : CategorySelector} (h : old.GrowsTo new) :
      GrowsTo (.categories old) (.categories new)
  | titles {old new : TitleSelector} (h : old.GrowsTo new) : GrowsTo (.titles old) (.titles new)
  | list {old new : List String} (h : old <+: new) : GrowsTo (.list old) (.list new)
  | pageGroups {old new : List (List PageReference)} (h : old <+: new) :
      GrowsTo (.pageGroups old) (.pageGroups new)
  | namespaces {old new : Std.ExtTreeSet Int} (h : ∀ id ∈ old, id ∈ new) :
      GrowsTo (.namespaces old) (.namespaces new)

/-- The kinds of values that gather. -/
def Value.Kind.gathers : Value.Kind → Bool
  | .categories | .titles | .list | .pageGroups | .namespaces => true
  | _ => false

namespace CategorySelector

theorem GrowsTo.refl (selector : CategorySelector) : selector.GrowsTo selector :=
  ⟨List.prefix_refl _, List.prefix_refl _, List.prefix_refl _, List.prefix_refl _⟩

theorem GrowsTo.trans {a b c : CategorySelector} (h : a.GrowsTo b) (h' : b.GrowsTo c) :
    a.GrowsTo c :=
  ⟨h.allOf.trans h'.allOf, h.anyOf.trans h'.anyOf, h.regexp.trans h'.regexp, h.like.trans h'.like⟩

theorem GrowsTo.of_empty (selector : CategorySelector) : GrowsTo {} selector :=
  ⟨List.nil_prefix, List.nil_prefix, List.nil_prefix, List.nil_prefix⟩

theorem growsTo_withGroup (selector : CategorySelector) (isAnd : Bool) (group : List String) :
    selector.GrowsTo (Reading.withGroup selector isAnd group) := by
  cases isAnd with
  | true => exact { GrowsTo.refl selector with allOf := List.prefix_append _ _ }
  | false => exact { GrowsTo.refl selector with anyOf := List.prefix_append _ _ }

theorem growsTo_withCategoryPattern (selector : CategorySelector) (kind : PatternKind)
    (pattern : String) : selector.GrowsTo (Reading.withCategoryPattern selector kind pattern) := by
  cases kind with
  | regexp => exact { GrowsTo.refl selector with regexp := List.prefix_append _ _ }
  | like => exact { GrowsTo.refl selector with like := List.prefix_append _ _ }

end CategorySelector

namespace TitleSelector

theorem GrowsTo.refl (selector : TitleSelector) : selector.GrowsTo selector :=
  ⟨List.prefix_refl _, List.prefix_refl _, List.prefix_refl _⟩

theorem GrowsTo.trans {a b c : TitleSelector} (h : a.GrowsTo b) (h' : b.GrowsTo c) : a.GrowsTo c :=
  ⟨h.exact.trans h'.exact, h.regexp.trans h'.regexp, h.like.trans h'.like⟩

theorem GrowsTo.of_empty (selector : TitleSelector) : GrowsTo {} selector :=
  ⟨List.nil_prefix, List.nil_prefix, List.nil_prefix⟩

theorem growsTo_withExact (selector : TitleSelector) (key : String) :
    selector.GrowsTo (Reading.withExact selector key) :=
  { GrowsTo.refl selector with exact := List.prefix_append _ _ }

theorem growsTo_withTitlePatterns (selector : TitleSelector) (kind : PatternKind)
    (patterns : List String) :
    selector.GrowsTo (Reading.withTitlePatterns selector kind patterns) := by
  cases kind with
  | regexp => exact { GrowsTo.refl selector with regexp := List.prefix_append _ _ }
  | like => exact { GrowsTo.refl selector with like := List.prefix_append _ _ }

end TitleSelector

namespace Value

theorem GrowsTo.refl {value : Value} (h : value.kind.gathers = true) : value.GrowsTo value := by
  cases value with
  | categories selector => exact .categories (.refl selector)
  | titles selector => exact .titles (.refl selector)
  | list items => exact .list (List.prefix_refl items)
  | pageGroups groups => exact .pageGroups (List.prefix_refl groups)
  | namespaces ids => exact .namespaces fun _ member => member
  | _ => cases h

theorem GrowsTo.trans {a b c : Value} (h : a.GrowsTo b) (h' : b.GrowsTo c) : a.GrowsTo c := by
  cases h with
  | categories grown => cases h' with | categories grown' => exact .categories (grown.trans grown')
  | titles grown => cases h' with | titles grown' => exact .titles (grown.trans grown')
  | list grown => cases h' with | list grown' => exact .list (grown.trans grown')
  | pageGroups grown => cases h' with | pageGroups grown' => exact .pageGroups (grown.trans grown')
  | namespaces grown =>
    cases h' with
    | namespaces grown' => exact .namespaces fun id member => grown' id (grown id member)

end Value

namespace Specification

variable {s : Specification} {key : String} {old : Value}

theorem eq_categoriesOf (found : s.value? key = some old) (kind : old.kind = .categories) :
    old = .categories (Reading.categoriesOf s key) := by
  cases old with
  | categories selector => simp [Reading.categoriesOf, categories?, found]
  | _ => cases kind

theorem eq_titlesOf (found : s.value? key = some old) (kind : old.kind = .titles) :
    old = .titles (Reading.titlesOf s key) := by
  cases old with
  | titles selector => simp [Reading.titlesOf, titles?, found]
  | _ => cases kind

theorem eq_list (found : s.value? key = some old) (kind : old.kind = .list) :
    old = .list ((s.list? key).getD []) := by
  cases old with
  | list items => simp [list?, found]
  | _ => cases kind

theorem eq_pageGroups (found : s.value? key = some old) (kind : old.kind = .pageGroups) :
    old = .pageGroups ((s.pageGroups? key).getD []) := by
  cases old with
  | pageGroups groups => simp [pageGroups?, found]
  | _ => cases kind

theorem eq_namespaces (found : s.value? key = some old) (kind : old.kind = .namespaces) :
    old = .namespaces ((s.namespaces? key).getD ∅) := by
  cases old with
  | namespaces ids => simp [namespaces?, found]
  | _ => cases kind

end Specification

/-- The keys under which the rules of a handler gather. -/
def Handler.gathering : Handler → List String
  | .category => ["category", "catheadings", "catnotheadings"]
  | .notCategory => ["notcategory"]
  | .categoryPattern side _ => [Reading.categoryKeyOf side]
  | .title => ["title"]
  | .notTitle => ["nottitle"]
  | .titlePattern side _ => [Reading.titleKeyOf side]
  | .inNamespace .unwanted => ["notnamespace"]
  | _ => []

/-- The keys under which a parameter gathers: its own key, if it is a list of pages. -/
def Parameter.gathering (p : Parameter) : List String :=
  match p.handler with
  | some handler => handler.gathering
  | none => if p.commonKind = .pageGroups then [p.name] else []

/-- The keys under which a query gathers what the pairs bring. -/
def Registry.gatheredKeys (r : Registry) : List String :=
  ["category", "notcategory", "title", "nottitle", "catheadings", "catnotheadings",
    "notnamespace"] ++ (r.parameters.filter (·.pageNames.isSome)).map (·.name)

namespace Reading

variable {settings : Settings} {host : Host} {p : Parameter} {spec : Specification} {text : String}

/-- A change lets what a query has under some keys grow, as far as the kinds of the values agree. -/
def Grows (spec : Specification) (keys : List String) (change : Change) : Prop :=
  ∀ w ∈ change.writes, w.1 ∈ keys → ∀ old, spec.value? w.1 = some old → old.kind = w.2.kind →
    old.GrowsTo w.2

private theorem makes_grows_nil (reading : Option Change) : Makes (Grows spec []) reading := by
  intro change _ w _ member
  cases member

private theorem grows_category :
    Makes (Grows spec (Handler.gathering .category)) (category host spec text) := by
  intro change taken w written key old found kind
  cases (makes_category change taken).2 w written with
  | group =>
    rw [Specification.eq_categoriesOf found kind]
    exact .categories (CategorySelector.growsTo_withGroup _ _ _)
  | headings =>
    rw [Specification.eq_list found kind]
    exact .list (List.prefix_append _ _)
  | uncategorized => simp [Handler.gathering] at key

/-- The rules of a handler only add to what they gather. -/
theorem grows_handled? (handler : Handler) :
    Makes (Grows spec handler.gathering) (handled? settings host p spec text handler) := by
  cases handler with
  | category => exact grows_category
  | notCategory =>
    refine makes_map fun title _ w written _ old found kind => ?_
    obtain rfl := List.mem_singleton.mp written
    rw [Specification.eq_categoriesOf found kind]
    exact .categories (CategorySelector.growsTo_withGroup _ _ _)
  | categoryPattern side pattern =>
    refine makes_some fun w written _ old found kind => ?_
    obtain rfl := List.mem_singleton.mp written
    rw [Specification.eq_categoriesOf found kind]
    refine .categories ?_
    split
    · exact .refl _
    · exact CategorySelector.growsTo_withCategoryPattern _ _ _
  | title =>
    refine makes_map fun title _ w written key old found kind => ?_
    -- The other keys that an exact title writes to are not gathered.
    rcases List.mem_cons.mp written with rfl | other
    · rw [Specification.eq_titlesOf found kind]
      exact .titles (TitleSelector.growsTo_withExact _ _)
    · simp only [List.mem_cons, List.not_mem_nil, or_false] at other
      rcases other with rfl | rfl | rfl <;> simp [Handler.gathering] at key
  | notTitle =>
    refine makes_map fun title _ w written _ old found kind => ?_
    obtain rfl := List.mem_singleton.mp written
    rw [Specification.eq_titlesOf found kind]
    exact .titles (TitleSelector.growsTo_withExact _ _)
  | titlePattern side pattern =>
    simp only [handled?, titlePattern]
    refine makes_ite (fun _ => makes_none) fun _ => makes_some fun w written _ old found kind => ?_
    obtain rfl := List.mem_singleton.mp written
    rw [Specification.eq_titlesOf found kind]
    exact .titles (TitleSelector.growsTo_withTitlePatterns _ _ _)
  | inNamespace side =>
    cases side with
    | wanted => exact makes_grows_nil _
    | unwanted =>
      refine makes_map fun ids _ w written _ old found kind => ?_
      obtain rfl := List.mem_singleton.mp written
      rw [Specification.eq_namespaces found kind]
      exact .namespaces fun id member => Std.ExtTreeSet.mem_insertMany_list.mpr (.inl member)
  | _ => exact makes_grows_nil _

/-- A parameter only adds to what it gathers. -/
theorem grows_change? : Makes (Grows spec p.gathering) (change? settings host p spec text) := by
  unfold change? Parameter.gathering
  cases p.handler with
  | some handler => exact grows_handled? handler
  | none =>
    refine makes_map fun value staged w written key old found kind => ?_
    obtain rfl := List.mem_singleton.mp written
    have grouped : value.kind = .pageGroups := by
      rw [kind_staged? staged]
      by_contra other
      simp [other] at key
    cases (stagedAs_of_staged? staged).2 with
    | pages =>
      rw [Specification.eq_pageGroups found kind]
      exact .pageGroups (List.prefix_append _ _)
    | _ => cases grouped

end Reading

/-- What a table has to be so that nothing that was gathered is lost: the values that gather are of
kinds that can grow, and only parameters that add to them write to them. -/
structure Registry.Gathers (r : Registry) : Prop where
  kinds : ∀ key ∈ r.gatheredKeys, (r.kindOf? key).any (·.gathers) = true
  writers : ∀ p ∈ r.parameters, ∀ key ∈ p.footprint, key ∈ r.gatheredKeys → key ∈ p.gathering

theorem Registry.gathers_standard : Registry.standard.Gathers where
  kinds := by decide +kernel
  writers := by decide +kernel

/-- What was under a key is still there, and has grown at most. -/
def Specification.KeepsAt (key : String) (s t : Specification) : Prop :=
  ∀ old, s.value? key = some old → ∃ new, t.value? key = some new ∧ old.GrowsTo new

/-- A query has gathered all that another one had, in the same order, and perhaps more behind it. A
key without a value counts as one under which nothing was gathered. -/
structure Specification.GrowsTo (r : Registry) (s t : Specification) : Prop where
  categories : ∀ key ∈ ["category", "notcategory"],
    (Reading.categoriesOf s key).GrowsTo (Reading.categoriesOf t key)
  titles : ∀ key ∈ ["title", "nottitle"],
    (Reading.titlesOf s key).GrowsTo (Reading.titlesOf t key)
  headings : ∀ key ∈ ["catheadings", "catnotheadings"],
    (s.list? key).getD [] <+: (t.list? key).getD []
  pages : ∀ p ∈ r.parameters, p.pageNames.isSome = true →
    (s.pageGroups? p.name).getD [] <+: (t.pageGroups? p.name).getD []
  unwanted : ∀ id ∈ (s.namespaces? "notnamespace").getD ∅,
    id ∈ (t.namespaces? "notnamespace").getD ∅
  kept : ∀ key ∈ r.gatheredKeys, s.KeepsAt key t

namespace Specification

variable {s t : Specification} {key : String}

theorem KeepsAt.categories (h : s.KeepsAt key t) :
    (Reading.categoriesOf s key).GrowsTo (Reading.categoriesOf t key) := by
  unfold Reading.categoriesOf categories?
  cases found : s.value? key with
  | none => exact .of_empty _
  | some old =>
    obtain ⟨new, found', grown⟩ := h old found
    rw [found']
    cases grown with
    | categories grown => exact grown
    | _ => exact .of_empty _

theorem KeepsAt.titles (h : s.KeepsAt key t) :
    (Reading.titlesOf s key).GrowsTo (Reading.titlesOf t key) := by
  unfold Reading.titlesOf titles?
  cases found : s.value? key with
  | none => exact .of_empty _
  | some old =>
    obtain ⟨new, found', grown⟩ := h old found
    rw [found']
    cases grown with
    | titles grown => exact grown
    | _ => exact .of_empty _

theorem KeepsAt.list (h : s.KeepsAt key t) :
    (s.list? key).getD [] <+: (t.list? key).getD [] := by
  unfold list?
  cases found : s.value? key with
  | none => exact List.nil_prefix
  | some old =>
    obtain ⟨new, found', grown⟩ := h old found
    rw [found']
    cases grown with
    | list grown => exact grown
    | _ => exact List.nil_prefix

theorem KeepsAt.pageGroups (h : s.KeepsAt key t) :
    (s.pageGroups? key).getD [] <+: (t.pageGroups? key).getD [] := by
  unfold pageGroups?
  cases found : s.value? key with
  | none => exact List.nil_prefix
  | some old =>
    obtain ⟨new, found', grown⟩ := h old found
    rw [found']
    cases grown with
    | pageGroups grown => exact grown
    | _ => exact List.nil_prefix

theorem KeepsAt.namespaces (h : s.KeepsAt key t) :
    ∀ id ∈ (s.namespaces? key).getD ∅, id ∈ (t.namespaces? key).getD ∅ := by
  unfold namespaces?
  cases found : s.value? key with
  | none => exact fun id member => absurd member Std.ExtTreeSet.not_mem_empty
  | some old =>
    obtain ⟨new, found', grown⟩ := h old found
    rw [found']
    cases grown with
    | namespaces grown => exact grown
    | _ => exact fun id member => absurd member Std.ExtTreeSet.not_mem_empty

/-- Where all gathered keys are kept, all that is gathered is. -/
theorem growsTo_of_keepsAt {r : Registry} (h : ∀ key ∈ r.gatheredKeys, s.KeepsAt key t) :
    s.GrowsTo r t where
  categories key member := by
    have within : ["category", "notcategory"] ⊆ r.gatheredKeys := by simp [Registry.gatheredKeys]
    exact (h key (within member)).categories
  titles key member := by
    have within : ["title", "nottitle"] ⊆ r.gatheredKeys := by simp [Registry.gatheredKeys]
    exact (h key (within member)).titles
  headings key member := by
    have within : ["catheadings", "catnotheadings"] ⊆ r.gatheredKeys := by
      simp [Registry.gatheredKeys]
    exact (h key (within member)).list
  pages p member listed := by
    refine (h p.name (List.mem_append_right _ ?_)).pageGroups
    exact List.mem_map.mpr ⟨p, List.mem_filter.mpr ⟨member, listed⟩, rfl⟩
  unwanted := (h "notnamespace" (by simp [Registry.gatheredKeys])).namespaces
  kept := h

end Specification

namespace Engine

variable {e : Engine} {s : Session} {key : String}

private theorem gathers_kind (gathers : e.registry.Gathers)
    (known : s.spec.Obeys fun key value => e.registry.kindOf? key = some value.kind)
    (gathered : key ∈ e.registry.gatheredKeys) {old : Value} (found : s.spec.value? key = some old) :
    old.kind.gathers = true := by
  have kind := gathers.kinds key gathered
  rwa [known key old found] at kind

/-- A pair only adds to what is gathered under a key. -/
theorem keepsAt_process (typed : e.registry.Typed) (gathers : e.registry.Gathers)
    (known : s.spec.Obeys fun key value => e.registry.kindOf? key = some value.kind)
    (gathered : key ∈ e.registry.gatheredKeys) (name text : String) :
    s.spec.KeepsAt key (e.process s name text).1.spec := by
  intro old found
  have kept := Value.GrowsTo.refl (gathers_kind gathers known gathered found)
  rcases e.spec_process_cases s name text with ⟨same, -⟩ | ⟨p, member, change, taken, made⟩
  · refine ⟨old, ?_, kept⟩
    rwa [Specification.value?, same]
  · rw [made, Specification.value?_commit]
    rcases (s.spec.mark p.name).value?_write_cases change.writes key with
      same | ⟨w, written, rfl, latest⟩
    · exact ⟨old, same.trans found, kept⟩
    · -- The parameter that writes to the key gathers there, and it writes what is of the old kind.
      have touched := (Reading.writes_change? change taken).writes w written
      have mine := gathers.writers p member w.1 touched gathered
      have kind : old.kind = w.2.kind := by
        have before := known w.1 old found
        have after := typed.layouts p member _ (Reading.laidOut_change? change taken w written)
        exact Option.some.inj (before.symm.trans after)
      exact ⟨w.2, latest, Reading.grows_change? change taken w written mine old found kind⟩

/-- Pairs only add to what is gathered under a key. -/
theorem keepsAt_run (typed : e.registry.Typed) (gathers : e.registry.Gathers)
    (seeded : s.spec.Covers e.start.spec)
    (known : s.spec.Obeys fun key value => e.registry.kindOf? key = some value.kind)
    (gathered : key ∈ e.registry.gatheredKeys) (pairs : List Pair) :
    s.spec.KeepsAt key (e.run s pairs).spec := by
  induction pairs generalizing s with
  | nil =>
    intro old found
    exact ⟨old, found, .refl (gathers_kind gathers known gathered found)⟩
  | cons pair pairs ih =>
    intro old found
    obtain ⟨mid, found, grown⟩ :=
      keepsAt_process typed gathers known gathered pair.1 pair.2 old found
    -- A pair finds what it adds to only as long as the values are of their kinds.
    have known' := (upholds_kindOf? typed).process seeded known pair.1 pair.2
    obtain ⟨new, found, grown'⟩ := ih (covers_process seeded pair.1 pair.2) known' mid found
    exact ⟨new, found, grown.trans grown'⟩

/-- What a query has gathered is never lost, reordered or rewritten. Whatever a pair is, and whether it
is accepted or not, the query after it has all that was gathered before, and so has every query that
later pairs come to. -/
theorem growsTo_run (standard : e.registry = .standard) (pairs : List Pair) :
    (∀ name text, (e.run e.start pairs).spec.GrowsTo .standard
      (e.process (e.run e.start pairs) name text).1.spec) ∧
    ∀ later, (e.run e.start pairs).spec.GrowsTo .standard
      (e.run (e.run e.start pairs) later).spec := by
  have typed : e.registry.Typed := standard ▸ Registry.typed_standard
  have gathers : e.registry.Gathers := standard ▸ Registry.gathers_standard
  have known := (upholds_kindOf? typed).run pairs
  have seeded := covers_run e.start pairs (e := e)
  rw [← standard]
  constructor
  · intro name text
    exact Specification.growsTo_of_keepsAt fun key gathered =>
      keepsAt_process typed gathers known gathered name text
  · intro later
    exact Specification.growsTo_of_keepsAt fun key gathered =>
      keepsAt_run typed gathers seeded known gathered later

theorem growsTo_run_categories :
    let e : Engine := ⟨.standard, {}, Site.host {}⟩
    let s := e.run e.start [("category", "Cats|Dogs"), ("linksto", "Main Page")]
    let after := (e.process s "categorymatch" "A%").1
    s.spec.GrowsTo .standard after.spec ∧
      Reading.categoriesOf s.spec "category" = { anyOf := [["Cats", "Dogs"]] } ∧
      Reading.categoriesOf after.spec "category" =
        { anyOf := [["Cats", "Dogs"]], like := ["A%"] } := by
  intro e s after
  have grown := (growsTo_run (e := e) rfl [("category", "Cats|Dogs"), ("linksto", "Main Page")]).1
    "categorymatch" "A%"
  exact ⟨grown, by decide +kernel, by decide +kernel⟩

end Engine

end WikiQuery

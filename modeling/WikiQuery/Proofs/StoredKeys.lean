import WikiQuery.Proofs.KeyForm
import WikiQuery.Proofs.Kind

/-!
The names that a query stores: categories in groups and in headings, and exact titles. Whichever
parameter stored them, and whether they were given or found below a category, they are keys.
-/

set_option autoImplicit false

namespace WikiQuery

open Text (IsKey)

/-- The names of pages that a value stores, if it stands under a key for such names. -/
def Value.storedNames : Value → List String
  | .categories selector => (selector.allOf ++ selector.anyOf).flatten
  | .titles selector => selector.exact
  | .list items => items
  | _ => []

/-- The keys under which a query stores names of pages. -/
def storingKeys : List String :=
  ["category", "notcategory", "catheadings", "catnotheadings", "title", "nottitle"]

/-- Where names of pages are stored, they are keys. -/
def Keyed (key : String) (value : Value) : Prop :=
  key ∈ storingKeys → ∀ name ∈ value.storedNames, IsKey name

/-- The titles of a wiki and the categories below others are stored as keys. -/
structure Host.GivesKeys (host : Host) : Prop where
  titles : ∀ text title, host.resolveTitle text = some title → IsKey title.key
  categories : ∀ category depth, ∀ name ∈ host.subcategories category depth, IsKey name

theorem Site.givesKeys (site : Site) : site.host.GivesKeys where
  titles text title resolved := by
    rw [resolveTitle_host, resolveTitle] at resolved
    exact Title.isKey_of_read? resolved
  categories category depth name member := by
    rw [subcategories_host] at member
    exact site.isKey_of_mem_subcategories member

namespace Reading

variable {settings : Settings} {host : Host} {p : Parameter} {spec : Specification} {text : String}
  {key name : String}

theorem isKey_of_mem_membersOf (keys : host.GivesKeys) {term : List Char}
    (member : name ∈ membersOf host term) : IsKey name := by
  unfold membersOf at member
  cases resolved : host.resolveTitle (String.ofList (Text.trimmed (depthOf term).2)) with
  | none => simp [resolved] at member
  | some title =>
    simp only [resolved] at member
    rcases List.mem_append.mp member with below | own
    · split at below
      · obtain ⟨found, listed, rfl⟩ := List.mem_map.mp below
        have known := keys.categories _ _ found listed
        rwa [known.toKey_eq]
      · cases below
    · rw [List.mem_singleton.mp own]
      exact keys.titles _ title resolved

theorem isKey_of_mem_groupOf (keys : host.GivesKeys) {terms : List (List Char)}
    (member : name ∈ groupOf host terms) : IsKey name := by
  obtain ⟨term, -, here⟩ := List.mem_flatMap.mp (List.mem_eraseDups.mp member)
  exact isKey_of_mem_membersOf keys here

theorem mem_storedNames_withGroup {selector : CategorySelector} {isAnd : Bool} {group : List String}
    (member : name ∈ (Value.categories (withGroup selector isAnd group)).storedNames) :
    name ∈ (Value.categories selector).storedNames ∨ name ∈ group := by
  obtain ⟨other, listed, inside⟩ := List.mem_flatten.mp member
  have known : other ∈ selector.allOf ++ selector.anyOf ∨ other = group := by
    cases isAnd <;> grind [withGroup]
  rcases known with old | rfl
  · exact .inl (List.mem_flatten.mpr ⟨other, old, inside⟩)
  · exact .inr inside

theorem storedNames_withCategoryPattern (selector : CategorySelector) (kind : PatternKind)
    (pattern : String) :
    (Value.categories (withCategoryPattern selector kind pattern)).storedNames =
      (Value.categories selector).storedNames := by
  cases kind with
  | regexp => rfl
  | like => rfl

theorem storedNames_withTitlePatterns (selector : TitleSelector) (kind : PatternKind)
    (patterns : List String) :
    (Value.titles (withTitlePatterns selector kind patterns)).storedNames =
      (Value.titles selector).storedNames := by
  cases kind with
  | regexp => rfl
  | like => rfl

theorem keyed_categoriesOf (obeyed : spec.Obeys Keyed) (stores : key ∈ storingKeys) :
    ∀ name ∈ (Value.categories (categoriesOf spec key)).storedNames, IsKey name := by
  unfold categoriesOf Specification.categories?
  cases found : spec.value? key with
  | none => simp [Value.storedNames]
  | some value =>
    cases value with
    | categories selector => exact obeyed key _ found stores
    | _ => simp [Value.storedNames]

theorem keyed_titlesOf (obeyed : spec.Obeys Keyed) (stores : key ∈ storingKeys) :
    ∀ name ∈ (titlesOf spec key).exact, IsKey name := by
  unfold titlesOf Specification.titles?
  cases found : spec.value? key with
  | none => simp
  | some value =>
    cases value with
    | titles selector => exact obeyed key _ found stores
    | _ => simp

theorem keyed_list (obeyed : spec.Obeys Keyed) (stores : key ∈ storingKeys) :
    ∀ name ∈ (spec.list? key).getD [], IsKey name := by
  unfold Specification.list?
  cases found : spec.value? key with
  | none => simp
  | some value =>
    cases value with
    | list items => exact obeyed key _ found stores
    | _ => simp

/-- A change that stores names as keys only. -/
def Stores (change : Change) : Prop :=
  ∀ w ∈ change.writes, Keyed w.1 w.2

private theorem keyed_withGroup (obeyed : spec.Obeys Keyed) (stores : key ∈ storingKeys)
    {isAnd : Bool} {group : List String} (all : ∀ name ∈ group, IsKey name) :
    Keyed key (.categories (withGroup (categoriesOf spec key) isAnd group)) := by
  intro _ name member
  rcases mem_storedNames_withGroup member with old | new
  · exact keyed_categoriesOf obeyed stores name old
  · exact all name new

private theorem keyed_withNew (obeyed : spec.Obeys Keyed) (stores : key ∈ storingKeys)
    {group : List String} (all : ∀ name ∈ group, IsKey name) :
    Keyed key (.list (withNew ((spec.list? key).getD []) group)) := by
  intro _ name member
  rcases List.mem_append.mp member with old | new
  · exact keyed_list obeyed stores name old
  · exact all name (List.mem_filter.mp (List.mem_eraseDups.mp new)).1

private theorem stores_category (keys : host.GivesKeys) (obeyed : spec.Obeys Keyed) :
    Makes Stores (category host spec text) := by
  have all : ∀ terms, ∀ name ∈ groupOf host terms, IsKey name := fun _ _ member =>
    isKey_of_mem_groupOf keys member
  intro change taken w written
  cases (makes_category change taken).2 w written with
  | group => exact keyed_withGroup obeyed (by simp [storingKeys]) (all _)
  | @headings key heading _ =>
    have stores : key ∈ storingKeys := by rcases heading with rfl | rfl <;> decide
    exact keyed_withNew obeyed stores (all _)
  | uncategorized => exact fun stores => absurd stores (by simp [storingKeys])

private theorem keyed_withExact (keys : host.GivesKeys) (obeyed : spec.Obeys Keyed)
    (stores : key ∈ storingKeys) {title : Title} (resolved : host.resolveTitle text = some title) :
    Keyed key (.titles (withExact (titlesOf spec key) title.key)) := by
  intro _ name member
  rcases List.mem_append.mp member with old | new
  · exact keyed_titlesOf obeyed stores name old
  · rw [List.mem_singleton.mp new]
    exact keys.titles text title resolved

private theorem stores_of_free (handler : Handler)
    (free : ∀ key ∈ handler.footprint p.name, key ∉ storingKeys) :
    Makes Stores (handled? settings host p spec text handler) := by
  intro change taken w written stores
  exact absurd stores (free w.1 ((writes_handled? handler change taken).writes w written))

/-- The rules of a handler store names as keys only. -/
theorem stores_handled? (keys : host.GivesKeys) (obeyed : spec.Obeys Keyed) (handler : Handler) :
    Makes Stores (handled? settings host p spec text handler) := by
  cases handler with
  | category => exact stores_category keys obeyed
  | notCategory =>
    refine makes_map fun title resolved w written => ?_
    obtain rfl := List.mem_singleton.mp written
    refine keyed_withGroup obeyed (by simp [storingKeys]) fun name member => ?_
    rw [List.mem_singleton.mp member]
    exact keys.titles _ title resolved
  | categoryPattern side kind =>
    refine makes_some fun w written stores name member => ?_
    obtain rfl := List.mem_singleton.mp written
    refine keyed_categoriesOf obeyed stores name ?_
    split at member
    · exact member
    · rwa [storedNames_withCategoryPattern] at member
  | title =>
    refine makes_map fun title resolved w written => ?_
    simp only [List.mem_cons, List.not_mem_nil, or_false] at written
    rcases written with rfl | rfl | rfl | rfl
    · exact keyed_withExact keys obeyed (by simp [storingKeys]) resolved
    · exact fun stores => absurd stores (by simp [storingKeys])
    · exact fun stores => absurd stores (by simp [storingKeys])
    · exact fun stores => absurd stores (by simp [storingKeys])
  | notTitle =>
    refine makes_map fun title resolved w written => ?_
    obtain rfl := List.mem_singleton.mp written
    exact keyed_withExact keys obeyed (by simp [storingKeys]) resolved
  | titlePattern side kind =>
    simp only [handled?, titlePattern]
    refine makes_ite (fun _ => makes_none) fun _ => makes_some fun w written stores name member => ?_
    obtain rfl := List.mem_singleton.mp written
    rw [storedNames_withTitlePatterns] at member
    exact keyed_titlesOf obeyed stores name member
  | flagSet =>
    refine makes_ite (fun _ => makes_none) fun _ => makes_some fun w written _ name member => ?_
    obtain rfl := List.mem_singleton.mp written
    cases member
  | inNamespace side =>
    refine stores_of_free _ ?_
    cases side <;> simp [Handler.footprint, namespaceKeyOf, storingKeys]
  | sectionMatch parsed negated =>
    refine stores_of_free _ ?_
    cases parsed <;> cases negated <;> simp [Handler.footprint, storingKeys]
  | _ =>
    refine stores_of_free _ ?_
    simp [Handler.footprint, storingKeys]

/-- A parameter stores names as keys only, if those that are read in the common way store none. -/
theorem stores_change? (keys : host.GivesKeys) (obeyed : spec.Obeys Keyed)
    (apart : p.handler = none → p.name ∉ storingKeys) :
    Makes Stores (change? settings host p spec text) := by
  unfold change?
  cases rules : p.handler with
  | some handler => exact stores_handled? keys obeyed handler
  | none =>
    refine makes_map fun value _ w written stores => ?_
    obtain rfl := List.mem_singleton.mp written
    exact absurd stores (apart rules)

end Reading

namespace Engine

variable {e : Engine} {pairs : List Pair}

/-- On a wiki that gives keys, a table stores keys only, if it has no names from the start and none is
stored by a parameter that is read in the common way. -/
theorem upholds_keyed (keys : e.host.GivesKeys)
    (unseeded : ∀ p ∈ e.registry.parameters, p.name ∈ storingKeys → p.seed? = none)
    (apart : ∀ p ∈ e.registry.parameters, p.handler = none → p.name ∉ storingKeys) :
    e.Upholds Keyed where
  seeds p member value seeded stores := by
    rw [unseeded p member stores] at seeded
    cases seeded
  changes p member spec _ obeyed text := Reading.stores_change? keys obeyed (apart p member)

theorem keyed_run (standard : e.registry = .standard) (keys : e.host.GivesKeys)
    (pairs : List Pair) : (e.run e.start pairs).spec.Obeys Keyed := by
  have unseeded : ∀ p ∈ Registry.standard.parameters, p.name ∈ storingKeys → p.seed? = none := by
    decide +kernel
  have apart : ∀ p ∈ Registry.standard.parameters, p.handler = none → p.name ∉ storingKeys := by
    decide +kernel
  rw [← standard] at unseeded apart
  exact (upholds_keyed keys unseeded apart).run pairs

private theorem typed_keyed_run (standard : e.registry = .standard) (keys : e.host.GivesKeys)
    {name : String} {value : Value} {kind : Value.Kind}
    (stores : name ∈ storingKeys ∧ Registry.standard.kindOf? name = some kind)
    (held : (e.run e.start pairs).spec.value? name = some value) :
    value.kind = kind ∧ ∀ key ∈ value.storedNames, IsKey key := by
  have sound : e.registry.Typed := standard ▸ Registry.typed_standard
  have typed := (upholds_kindOf? sound).run pairs name value held
  rw [standard, stores.2, Option.some.injEq] at typed
  exact ⟨typed.symm, keyed_run standard keys pairs name value held stores.1⟩

/-- Every name that a query stores on a described wiki is a key: the categories in its groups and
headings, and the exact titles that are wanted or not. -/
theorem keys_run (standard : e.registry = .standard) {site : Site} (hosted : e.host = site.host)
    (pairs : List Pair) :
    (∀ name ∈ ["category", "notcategory"], ∀ value,
      (e.run e.start pairs).spec.value? name = some value → ∃ selector, value = .categories selector ∧
        ∀ group ∈ selector.allOf ++ selector.anyOf, ∀ key ∈ group, IsKey key) ∧
    (∀ name ∈ ["catheadings", "catnotheadings"], ∀ value,
      (e.run e.start pairs).spec.value? name = some value → ∃ items, value = .list items ∧
        ∀ key ∈ items, IsKey key) ∧
    ∀ name ∈ ["title", "nottitle"], ∀ value,
      (e.run e.start pairs).spec.value? name = some value → ∃ selector, value = .titles selector ∧
        ∀ key ∈ selector.exact, IsKey key := by
  have keys : e.host.GivesKeys := hosted ▸ site.givesKeys
  refine ⟨fun name listed value held => ?_, fun name listed value held => ?_,
    fun name listed value held => ?_⟩
  · have grouped : ∀ name ∈ ["category", "notcategory"],
        name ∈ storingKeys ∧ Registry.standard.kindOf? name = some .categories := by decide +kernel
    obtain ⟨kind, stored⟩ := typed_keyed_run standard keys (grouped name listed) held
    cases value with
    | categories selector =>
      refine ⟨selector, rfl, fun group member key inside => ?_⟩
      exact stored key (List.mem_flatten.mpr ⟨group, member, inside⟩)
    | _ => cases kind
  · have headed : ∀ name ∈ ["catheadings", "catnotheadings"],
        name ∈ storingKeys ∧ Registry.standard.kindOf? name = some .list := by decide +kernel
    obtain ⟨kind, stored⟩ := typed_keyed_run standard keys (headed name listed) held
    cases value with
    | list items => exact ⟨items, rfl, stored⟩
    | _ => cases kind
  · have titled : ∀ name ∈ ["title", "nottitle"],
        name ∈ storingKeys ∧ Registry.standard.kindOf? name = some .titles := by decide +kernel
    obtain ⟨kind, stored⟩ := typed_keyed_run standard keys (titled name listed) held
    cases value with
    | titles selector => exact ⟨selector, rfl, stored⟩
    | _ => cases kind

theorem keys_run_below_animals :
    let site : Site := { categories := .ofList [("animals", ["big__cats ", " ßtrays"])] }
    let e : Engine := ⟨.standard, {}, site.host⟩
    let spec := (e.run e.start [("category", "+*animals"), ("nottitle", "help: ŉa  me_#x")]).spec
    spec.value? "catheadings" = some (.list ["Big_cats", "SStrays", "Animals"]) ∧
      (∀ key ∈ ["Big_cats", "SStrays", "Animals"], IsKey key) ∧
      spec.value? "nottitle" = some (.titles { exact := ["ʼNa_me"] }) ∧ IsKey "ʼNa_me" := by
  intro site e spec
  have hosted : e.host = site.host := rfl
  obtain ⟨-, headings, titles⟩ := keys_run (e := e) rfl hosted
    [("category", "+*animals"), ("nottitle", "help: ŉa  me_#x")]
  have marked : spec.value? "catheadings" = some (.list ["Big_cats", "SStrays", "Animals"]) := by
    decide +kernel
  have unwanted : spec.value? "nottitle" = some (.titles { exact := ["ʼNa_me"] }) := by
    decide +kernel
  obtain ⟨items, same, keys⟩ := headings _ (by simp) _ marked
  obtain ⟨selector, same', keys'⟩ := titles _ (by simp) _ unwanted
  cases same
  cases same'
  exact ⟨marked, keys, unwanted, keys' _ (by simp)⟩

end Engine

end WikiQuery

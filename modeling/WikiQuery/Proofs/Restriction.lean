import WikiQuery.Proofs.CategoryCount
import WikiQuery.Proofs.Staging

/-!
What pages are selected by. A parameter that selects pages leaves a value by which they are selected,
whatever text it takes, with two exceptions: a blank pattern for categories adds nothing, and the
choice of a user takes an empty text, which also clears a user that was chosen before.
-/

set_option autoImplicit false

namespace WikiQuery

open Reading (categoriesOf categoryKeyOf namespaceKeyOf titleKeyOf)

/-- A value by which pages are selected, under its key. -/
inductive Registry.Restricts (r : Registry) : String → Value → Prop
  | categories (side : Side) {selector : CategorySelector} (terms : 0 < selector.termCount) :
      Restricts r (categoryKeyOf side) (.categories selector)
  | uncategorized : Restricts r "includeuncat" (.bool true)
  | titles (side : Side) {selector : TitleSelector}
      (inhabited : selector.exact ≠ [] ∨ selector.regexp ≠ [] ∨ selector.like ≠ []) :
      Restricts r (titleKeyOf side) (.titles selector)
  | namespaces (side : Side) {ids : Std.ExtTreeSet Int} {id : Int} (member : id ∈ ids) :
      Restricts r (namespaceKeyOf side) (.namespaces ids)
  | pages {p : Parameter} (known : p ∈ r.parameters) (listed : p.pageNames.isSome = true)
      {groups : List (List PageReference)} {group : List PageReference} (member : group ∈ groups)
      (inhabited : group ≠ []) : Restricts r p.name (.pageGroups groups)
  | user {name : String} (known : Registry.userFilter name ∈ r.parameters) {text : String}
      (inhabited : text ≠ "") : Restricts r name (.text text)
  | revision {name : String} (known : Registry.revisionFilter name ∈ r.parameters) {text : String}
      (inhabited : text ≠ "") : Restricts r name (.text text)

/-- The keys under which a query can hold such values. -/
def Registry.selectingKeys (r : Registry) : List String :=
  ["category", "notcategory", "includeuncat", "title", "nottitle", "namespace", "notnamespace"] ++
    (r.parameters.filter fun p => p.pageNames.isSome || p == userFilter p.name ||
      p == revisionFilter p.name).map (·.name)

theorem Registry.Restricts.mem_selectingKeys {r : Registry} {key : String} {value : Value}
    (h : r.Restricts key value) : key ∈ r.selectingKeys := by
  have own : ∀ p ∈ r.parameters, (p.pageNames.isSome || p == userFilter p.name ||
      p == revisionFilter p.name) = true → p.name ∈ r.selectingKeys := by
    intro p known kind
    refine List.mem_append_right _ (List.mem_map.mpr ⟨p, ?_, rfl⟩)
    exact List.mem_filter.mpr ⟨known, kind⟩
  cases h with
  | categories side => cases side <;> simp [selectingKeys, categoryKeyOf]
  | titles side => cases side <;> simp [selectingKeys, titleKeyOf]
  | namespaces side => cases side <;> simp [selectingKeys, namespaceKeyOf]
  | uncategorized => simp [selectingKeys]
  | pages known listed => exact own _ known (by simp [listed])
  | user known => exact own _ known (by simp [Registry.userFilter])
  | revision known => exact own _ known (by simp [Registry.revisionFilter])

namespace Handler

/-- Whether the rules of a handler select pages. -/
def selectsPages : Handler → Bool
  | .category | .notCategory | .categoryPattern _ _ | .title | .notTitle | .titlePattern _ _
  | .inNamespace _ => true
  | _ => false

/-- Whether the rules of a handler take a pattern for categories. -/
def isCategoryPattern : Handler → Bool
  | .categoryPattern _ _ => true
  | _ => false

end Handler

namespace Pair

variable {r : Registry} {pair : Pair}

/-- A pair of a parameter that selects pages. -/
def Selects (r : Registry) (pair : Pair) : Prop :=
  (r.find? pair.1).any (·.selects) = true

/-- A pair that is taken but selects nothing: a pattern for categories, or a user, that is blank. -/
def Blank (r : Registry) (pair : Pair) : Prop :=
  (r.find? pair.1).any (·.handler.any Handler.isCategoryPattern) = true ∧ Text.trim pair.2 = "" ∨
    r.find? pair.1 = some (Registry.userFilter pair.1) ∧ pair.2 = ""

/-- A pair that takes back the choice of a user. -/
def Clears (r : Registry) (key : String) (pair : Pair) : Prop :=
  r.find? key = some (Registry.userFilter key) ∧ pair.1 = key ∧ pair.2 = ""

instance (r : Registry) (pair : Pair) : Decidable (pair.Selects r) :=
  inferInstanceAs (Decidable (_ = true))

instance (r : Registry) (pair : Pair) : Decidable (pair.Blank r) :=
  inferInstanceAs (Decidable (_ ∧ _ ∨ _ ∧ _))

instance (r : Registry) (key : String) (pair : Pair) : Decidable (pair.Clears r key) :=
  inferInstanceAs (Decidable (_ ∧ _ ∧ _))

end Pair

theorem Timestamp.ne_empty_of_normalize {source text : String} (h : normalize source = some text) :
    text ≠ "" := by
  obtain ⟨instant, -, rfl⟩ := Option.map_eq_some_iff.mp h
  have digits : Number.paddedDigits 2 instant.second ≠ [] := by
    intro none
    have length := congrArg List.length none
    simp only [Number.paddedDigits, List.length_append, List.length_replicate,
      List.length_nil] at length
    omega
  simp [Clock.standard, render, digits]

namespace Reading

variable {r : Registry} {settings : Settings} {host : Host} {p : Parameter}
  {spec : Specification} {text : String} {handler : Handler} {key : String} {value : Value}

/-- A change by which pages are selected: all that it writes to the keys for it selects some. -/
structure Selecting (change : Change) : Prop where
  restricts : ∀ w ∈ change.writes, w.1 ∈ Registry.standard.selectingKeys →
    Registry.standard.Restricts w.1 w.2
  writes : ∃ w ∈ change.writes, w.1 ∈ Registry.standard.selectingKeys

private theorem apart_selectingKeys :
    ∀ key ∈ ["catheadings", "catnotheadings", "mode", "ordermethod"],
      key ∉ Registry.standard.selectingKeys := by
  decide +kernel

theorem selecting_singleton (h : Registry.standard.Restricts key value) :
    Selecting { writes := [(key, value)] } where
  restricts := by
    intro w written _
    obtain rfl := List.mem_singleton.mp written
    exact h
  writes := ⟨(key, value), List.mem_singleton_self _, h.mem_selectingKeys⟩

private theorem selecting_category : Makes Selecting (category host spec text) := by
  intro change taken
  refine ⟨fun w written key => ?_, ?_⟩
  · cases (makes_category change taken).2 w written with
    | @group isAnd terms inhabited =>
      refine .categories .wanted ?_
      have members : 0 < (groupOf host terms).length := List.length_pos_iff.mpr inhabited
      rw [termCount_withGroup]
      omega
    | @headings name heading _ =>
      have known : name ∈ ["catheadings", "catnotheadings", "mode", "ordermethod"] := by
        rcases heading with rfl | rfl <;> simp
      exact absurd key (apart_selectingKeys name known)
    | uncategorized => exact .uncategorized
  · simp only [category, Option.mem_def, Option.ite_none_left_eq_some, Option.some.injEq] at taken
    obtain ⟨-, taken, rfl⟩ := taken
    -- Without a group of categories, it is pages without one that are called for.
    generalize (termsOf (headingOf (Text.trimmed text.toList)).2).2 = terms at taken ⊢
    generalize groupOf host terms = group at taken ⊢
    cases group with
    | nil =>
      have uncategorized : terms.any isUncategorized = true := by simpa using taken
      refine ⟨("includeuncat", .bool true), ?_, by simp [Registry.selectingKeys]⟩
      simp [uncategorized]
    | cons first others =>
      refine ⟨_, List.mem_append_left _ List.mem_cons_self, ?_⟩
      simp [Registry.selectingKeys]

private theorem selecting_titlePattern (side : Side) (kind : PatternKind) :
    Makes Selecting (titlePattern side kind spec text) := by
  simp only [titlePattern]
  refine makes_ite (fun _ => makes_none) fun some => makes_some (selecting_singleton ?_)
  have patterns : titlePatterns text ≠ [] := by simpa using some
  cases kind with
  | regexp => exact .titles side (.inr (.inl (by simp [withTitlePatterns, patterns])))
  | like => exact .titles side (.inr (.inr (by simp [withTitlePatterns, patterns])))

private theorem selecting_title : Makes Selecting (title host spec text) := by
  refine makes_map fun title _ => ⟨fun w written key => ?_, ?_⟩
  · simp only [List.mem_cons, List.not_mem_nil, or_false] at written
    rcases written with rfl | rfl | rfl | rfl
    · exact .titles .wanted (.inl (by simp [withExact]))
    · exact .namespaces .wanted (show title.namespaceId ∈ _ by simp)
    · exact absurd key (apart_selectingKeys _ (by simp))
    · exact absurd key (apart_selectingKeys _ (by simp))
  · refine ⟨_, List.mem_cons_self, ?_⟩
    simp [Registry.selectingKeys]

private theorem selecting_inNamespace (side : Side) :
    Makes Selecting (inNamespace side settings host spec text) := by
  refine makes_map fun ids read => selecting_singleton ?_
  -- A line has at least one part, and each part names a namespace.
  obtain ⟨part, parts, split⟩ := List.exists_cons_of_ne_nil (Text.split_ne_nil '|' text)
  rw [split, List.map_cons, List.mapM_cons] at read
  obtain ⟨id, -, rest⟩ := Option.bind_eq_some_iff.mp read
  obtain ⟨others, -, made⟩ := Option.bind_eq_some_iff.mp rest
  obtain rfl := Option.some.inj made
  refine .namespaces side (show id ∈ _ from ?_)
  exact Std.ExtTreeSet.mem_insertMany_list.mpr (.inr (by simp))

/-- What the rules of a handler that select pages take selects some, but for a blank pattern. -/
theorem selecting_handled? (selects : handler.selectsPages = true)
    (shown : handler.isCategoryPattern = true → Text.trim text ≠ "") :
    Makes Selecting (handled? settings host p spec text handler) := by
  cases handler with
  | category => exact selecting_category
  | notCategory =>
    refine makes_map fun title _ => selecting_singleton (.categories .unwanted ?_)
    rw [termCount_withGroup]
    simp
  | categoryPattern side kind =>
    have pattern : ¬(Text.trim text).isEmpty = true := by simpa using shown rfl
    refine makes_some (selecting_singleton (.categories side ?_))
    rw [if_neg pattern, termCount_withCategoryPattern]
    omega
  | title => exact selecting_title
  | notTitle =>
    refine makes_map fun title _ => selecting_singleton (.titles .unwanted (.inl ?_))
    simp [withExact]
  | titlePattern side kind => exact selecting_titlePattern side kind
  | inNamespace side => exact selecting_inNamespace side
  | _ => cases selects

theorem categoryPattern_blank {side : Side} {kind : PatternKind} {change : Change}
    (blank : Text.trim text = "") (taken : categoryPattern side kind spec text = some change) :
    change.writes =
      [(categoryKeyOf side, .categories (categoriesOf spec (categoryKeyOf side)))] := by
  obtain rfl := Option.some.inj taken
  simp [blank]

private theorem restricts_user {name : String} (known : Registry.userFilter name ∈ r.parameters)
    (shown : text ≠ "") (h : staged? host (Registry.userFilter name) spec text = some value) :
    r.Restricts name value := by
  cases (stagedAs_of_staged? h).2 with
  | int integer => cases integer
  | bool _ boolean => cases boolean
  | pages _ listed => cases listed
  | captured _ _ pattern => cases pattern
  | plain _ _ _ untimed =>
    refine .user known ?_
    have kept : prepared (Registry.userFilter name) text = text := rfl
    have stored : (Registry.userFilter name).isKey = true := rfl
    rw [untimed rfl, kept, if_pos stored]
    simpa [Text.toKey, Text.replaceChar] using shown

private theorem restricts_revision {name : String} {site : Site}
    (known : Registry.revisionFilter name ∈ r.parameters)
    (h : staged? site.host (Registry.revisionFilter name) spec text = some value) :
    r.Restricts name value := by
  cases (stagedAs_of_staged? h).2 with
  | int integer => cases integer
  | bool _ boolean => cases boolean
  | pages _ listed => cases listed
  | captured _ _ pattern => cases pattern
  | plain _ _ _ _ timed => exact .revision known (Timestamp.ne_empty_of_normalize (timed rfl))

private theorem restricts_pages (known : p ∈ r.parameters) (listed : p.pageNames.isSome = true)
    (textual : p.isInteger = false ∧ p.isBoolean = false)
    (h : staged? host p spec text = some value) : r.Restricts p.name value := by
  cases (stagedAs_of_staged? h).2 with
  | int integer => simp [integer] at textual
  | bool _ boolean => simp [boolean] at textual
  | pages _ _ _ inhabited => exact .pages known listed (by simp) inhabited
  | captured _ unlisted => simp [unlisted] at listed
  | plain _ unlisted => simp [unlisted] at listed

/-- The parameters that select pages by rules of their own, and those read in the common way. -/
private theorem selectors_standard :
    ∀ p ∈ Registry.standard.parameters, p.selects = true →
      (∀ handler ∈ p.handler, handler.selectsPages = true) ∧
      (p.handler = none →
        p.pageNames.isSome = true ∧ p.isInteger = false ∧ p.isBoolean = false ∨
          p = Registry.userFilter p.name ∨ p = Registry.revisionFilter p.name) := by
  decide +kernel

/-- A parameter that selects pages leaves a value by which they are, unless its text is blank. -/
theorem selecting_change? {site : Site} (known : p ∈ Registry.standard.parameters)
    (selects : p.selects = true) (shown : ¬Pair.Blank .standard (p.name, text)) :
    Makes Selecting (change? settings site.host p spec text) := by
  have found : Registry.standard.find? p.name = some p := Registry.find?_of_mem known
  obtain ⟨handled, common⟩ := selectors_standard p known selects
  simp only [Pair.Blank, found, Option.any_some, not_or, not_and] at shown
  obtain ⟨pattern, user⟩ := shown
  unfold change?
  cases rules : p.handler with
  | some handler =>
    refine selecting_handled? (handled handler rules) fun isPattern => pattern ?_
    simp [rules, isPattern]
  | none =>
    refine makes_map fun value staged => selecting_singleton ?_
    rcases common rules with ⟨listed, textual⟩ | same | same
    · exact restricts_pages known listed textual staged
    · have inhabited : text ≠ "" := user (congrArg some same)
      rw [same] at known staged
      exact restricts_user known inhabited staged
    · rw [same] at known staged
      exact restricts_revision known staged

private theorem writes_user {name : String} (blank : text = "") {change : Change}
    (taken : change? settings host (Registry.userFilter name) spec text = some change) :
    change.writes = [(name, .text "")] := by
  subst blank
  have staged : staged? host (Registry.userFilter name) spec "" = some (.text "") := rfl
  have made : change? settings host (Registry.userFilter name) spec "" =
      some { writes := [(name, .text "")] } := by
    simp only [change?, Registry.userFilter] at staged ⊢
    rw [staged]
    rfl
  rw [made] at taken
  exact (Option.some.inj taken) ▸ rfl

/-- A blank pair leaves the categories as they are, or the user as an empty text. -/
theorem writes_of_blank (known : p ∈ Registry.standard.parameters) {change : Change}
    (blank : Pair.Blank .standard (p.name, text))
    (taken : change? settings host p spec text = some change) :
    (p ≠ Registry.userFilter p.name ∧ ∃ side, change.writes =
        [(categoryKeyOf side, .categories (categoriesOf spec (categoryKeyOf side)))]) ∨
      p = Registry.userFilter p.name ∧ text = "" ∧ change.writes = [(p.name, .text "")] := by
  have found : Registry.standard.find? p.name = some p := Registry.find?_of_mem known
  simp only [Pair.Blank, found, Option.any_some, Option.some.injEq] at blank
  rcases blank with ⟨pattern, blank⟩ | ⟨user, blank⟩
  · cases rules : p.handler with
    | none => simp [rules] at pattern
    | some handler =>
      have other : p ≠ Registry.userFilter p.name := by
        intro user
        rw [user] at rules
        cases rules
      rw [rules, Option.any_some] at pattern
      cases handler with
      | categoryPattern side kind =>
        simp only [change?, rules, handled?] at taken
        exact .inl ⟨other, side, categoryPattern_blank blank taken⟩
      | _ => cases pattern
  · refine .inr ⟨user, blank, ?_⟩
    rw [user] at taken
    exact writes_user blank taken

/-- The keys for selecting pages are written to by parameters that select pages alone, and that of the
choice of a user by its own parameter alone. -/
theorem writers_standard :
    (∀ p ∈ Registry.standard.parameters, ∀ key ∈ p.footprint,
      key ∈ Registry.standard.selectingKeys → p.selects = true) ∧
    ∀ q ∈ Registry.standard.parameters, q = Registry.userFilter q.name →
      ∀ p ∈ Registry.standard.parameters, q.name ∈ p.footprint → p.name = q.name := by
  constructor
  · decide +kernel
  · decide +kernel

end Reading

namespace Registry

variable {r : Registry} {key : String} {value : Value}

private theorem categories_apart :
    ∀ p ∈ Registry.standard.parameters, p.pageNames.isSome = true ∨ p = Registry.userFilter p.name ∨
      p = Registry.revisionFilter p.name → p.name ≠ "category" ∧ p.name ≠ "notcategory" := by
  decide +kernel

theorem Restricts.termCount_pos {selector : CategorySelector}
    (h : r.Restricts key (.categories selector)) : 0 < selector.termCount := by
  cases h with
  | categories side terms => exact terms

/-- Categories are all that pages are selected by under the keys for them. -/
theorem Restricts.exists_categories (h : standard.Restricts key value) {side : Side}
    (here : key = categoryKeyOf side) : ∃ selector, value = .categories selector := by
  have apart : ∀ name, name ≠ "category" ∧ name ≠ "notcategory" → name ≠ categoryKeyOf side := by
    rintro name ⟨wanted, unwanted⟩
    cases side with
    | wanted => exact wanted
    | unwanted => exact unwanted
  cases h with
  | categories => exact ⟨_, rfl⟩
  | uncategorized => exact absurd here (apart _ (by decide))
  | titles other => exact absurd here (apart _ (by cases other <;> decide))
  | namespaces other => exact absurd here (apart _ (by cases other <;> decide))
  | pages known listed => exact absurd here (apart _ (categories_apart _ known (.inl listed)))
  | user known => exact absurd here (apart _ (categories_apart _ known (.inr (.inl rfl))))
  | revision known => exact absurd here (apart _ (categories_apart _ known (.inr (.inr rfl))))

theorem not_restricts_empty : ¬r.Restricts key (.text "") := by
  intro h
  cases h with
  | user known inhabited => exact inhabited rfl
  | revision known inhabited => exact inhabited rfl

end Registry

namespace Specification

variable {s t : Specification} {key : String}

/-- There is a value under a key by which pages are selected. -/
def RestrictsAt (s : Specification) (key : String) : Prop :=
  ∃ value, s.value? key = some value ∧ Registry.standard.Restricts key value

theorem RestrictsAt.congr (h : s.RestrictsAt key) (same : t.value? key = s.value? key) :
    t.RestrictsAt key := by
  obtain ⟨value, held, restricts⟩ := h
  exact ⟨value, same.trans held, restricts⟩

theorem restricts_categoriesOf_iff (side : Side) :
    Registry.standard.Restricts (categoryKeyOf side)
        (.categories (categoriesOf s (categoryKeyOf side))) ↔
      s.RestrictsAt (categoryKeyOf side) := by
  constructor
  · intro restricts
    refine ⟨_, ?_, restricts⟩
    -- Without a selector under the key, there would be no term.
    have terms := restricts.termCount_pos
    unfold categoriesOf categories? at terms ⊢
    cases found : s.value? (categoryKeyOf side) with
    | none => simp [found, CategorySelector.termCount] at terms
    | some value =>
      cases value with
      | categories selector => simp
      | _ => simp [found, CategorySelector.termCount] at terms
  · rintro ⟨value, held, restricts⟩
    obtain ⟨selector, rfl⟩ := restricts.exists_categories rfl
    have same : categoriesOf s (categoryKeyOf side) = selector := by
      simp [categoriesOf, categories?, held]
    exact same.symm ▸ restricts

/-- A selector of categories that is written as it is makes no difference. -/
theorem restrictsAt_write_categoriesOf_iff (side : Side) :
    (s.write [(categoryKeyOf side, .categories (categoriesOf s (categoryKeyOf side)))]).RestrictsAt
      key ↔ s.RestrictsAt key := by
  by_cases here : categoryKeyOf side = key
  · subst here
    refine Iff.trans ?_ (restricts_categoriesOf_iff side)
    simp [RestrictsAt, value?_write_singleton]
  · rw [RestrictsAt, RestrictsAt, value?_write_singleton, if_neg here]

theorem restrictsAt_write_empty_iff {name : String} :
    (s.write [(name, .text "")]).RestrictsAt key ↔ name ≠ key ∧ s.RestrictsAt key := by
  unfold RestrictsAt
  rw [value?_write_singleton]
  by_cases here : name = key
  · simp [here, Registry.not_restricts_empty]
  · simp [here]

end Specification

end WikiQuery

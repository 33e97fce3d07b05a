import WikiQuery.Proofs.Choice
import WikiQuery.Proofs.FirstOccurrence

/-!
The domains of values. What is laid down for the values under a key holds of every value that comes to
stand there, whichever parameter wrote it: forms and orders are known ones, flags are those that there
are, and groups, headings, namespaces and separators have as many members as they should.
-/

set_option autoImplicit false

namespace WikiQuery

/-- The tables of links that can be reset or eliminated. -/
def linkTables : List String :=
  ["categories", "templates", "links", "images"]

/-- A selector whose groups have members, each of them once. -/
def CategorySelector.Sound (selector : CategorySelector) : Prop :=
  ∀ group ∈ selector.allOf ++ selector.anyOf, group ≠ [] ∧ group.Nodup

/-- What is laid down for the value under a key. Where nothing is, every value will do. -/
def Domain (key : String) (value : Value) : Prop :=
  match key with
  | "mode" => ∃ word ∈ Registry.modes, word ≠ "none" ∧ value = .text word
  | "ordermethod" =>
    ∃ methods, (∀ method ∈ methods, method ∈ Registry.orderMethods) ∧ value = .list methods
  | "debug" => ∃ level : Int, 0 ≤ level ∧ level ≤ 5 ∧ value = .int level
  | "reset" | "eliminate" =>
    ∃ flags : Std.ExtTreeMap String Bool,
      (∀ flag, flag ∈ flags ↔ flag ∈ linkTables) ∧ value = .flags flags
  | "namespace" | "notnamespace" =>
    ∃ ids : Std.ExtTreeSet Int, (∃ id, id ∈ ids) ∧ value = .namespaces ids
  | "category" | "notcategory" => ∃ selector, selector.Sound ∧ value = .categories selector
  | "catheadings" | "catnotheadings" => ∃ items, items.Nodup ∧ value = .list items
  | "listseparators" => ∃ items, 1 ≤ items.length ∧ items.length ≤ 4 ∧ value = .list items
  | "categoriesminmax" => ∃ least most, value = .list [least, most]
  | "seclabels" => ∃ items, items ≠ [] ∧ value = .list items
  | "replaceintitle" =>
    ∃ pattern replacement, Text.isBlankText pattern = false ∧ replacement.length ≤ 1 ∧
      value = .list (pattern :: replacement)
  | _ => True

/-- The keys for whose values something is laid down. -/
def boundedKeys : List String :=
  ["mode", "ordermethod", "debug", "reset", "eliminate", "namespace", "notnamespace", "category",
    "notcategory", "catheadings", "catnotheadings", "listseparators", "categoriesminmax",
    "seclabels", "replaceintitle"]

theorem domain_of_not_mem {key : String} {value : Value} (h : key ∉ boundedKeys) :
    Domain key value := by
  unfold Domain
  split <;> simp_all [boundedKeys]

theorem domain_flags {key : String} {value : Value} (flagged : key ∈ ["reset", "eliminate"]) :
    Domain key value ↔
      ∃ flags : Std.ExtTreeMap String Bool,
        (∀ flag, flag ∈ flags ↔ flag ∈ linkTables) ∧ value = .flags flags := by
  simp only [List.mem_cons, List.not_mem_nil, or_false] at flagged
  rcases flagged with rfl | rfl <;> rfl

theorem domain_categories (side : Side) {value : Value} :
    Domain (Reading.categoryKeyOf side) value ↔
      ∃ selector : CategorySelector, selector.Sound ∧ value = .categories selector := by
  cases side <;> rfl

theorem domain_headings {key : String} {value : Value}
    (heading : key = "catheadings" ∨ key = "catnotheadings") :
    Domain key value ↔ ∃ items : List String, items.Nodup ∧ value = .list items := by
  rcases heading with rfl | rfl <;> rfl

theorem domain_namespaces (side : Side) {value : Value} :
    Domain (Reading.namespaceKeyOf side) value ↔
      ∃ ids : Std.ExtTreeSet Int, (∃ id, id ∈ ids) ∧ value = .namespaces ids := by
  cases side <;> rfl

theorem domain_userformat : Domain "mode" (.text "userformat") :=
  ⟨"userformat", by decide, by decide, rfl⟩

/-- What the rules of a handler rely on: the values that a parameter takes by name, and for flags also
its name, and that they are there from the start. -/
def Handler.fits (p : Parameter) : Handler → Bool
  | .orderMethod => p.namedValues == Registry.orderMethods
  | .mode => p.namedValues == Registry.modes
  | .flagSet =>
    ["reset", "eliminate"].contains p.name && p.namedValues == Registry.linkTableFlags &&
      p.seed?.isSome
  | .debug => p.namedValues == ["0", "1", "2", "3", "4", "5"]
  | _ => true

/-- What is relied on about a parameter. One that is read in the common way has no value for which
something is laid down, but for the two numbers that are captured by a pattern of two groups. -/
def Parameter.fits (p : Parameter) : Bool :=
  match p.handler with
  | some handler => handler.fits p
  | none =>
    !boundedKeys.contains p.name ||
      (p.name == "categoriesminmax" && decide (p.commonKind = .list) &&
        (p.pattern.bind Pattern.ofSource?).any (·.groupCount == 2))

namespace Reading

variable {settings : Settings} {host : Host} {p : Parameter} {spec : Specification} {text : String}

theorem nodup_withNew {old items : List String} (nodup : old.Nodup) : (withNew old items).Nodup := by
  unfold withNew
  refine List.nodup_append.mpr ⟨nodup, nodup_eraseDups _, fun a member b new => ?_⟩
  rintro rfl
  have fresh := (List.mem_filter.mp (List.mem_eraseDups.mp new)).2
  simp [member] at fresh

theorem nodup_groupOf (host : Host) (terms : List (List Char)) : (groupOf host terms).Nodup :=
  nodup_eraseDups _

theorem sound_withGroup {selector : CategorySelector} (sound : selector.Sound) (isAnd : Bool)
    {group : List String} (inhabited : group ≠ []) (nodup : group.Nodup) :
    (withGroup selector isAnd group).Sound := by
  intro other member
  have known : other ∈ selector.allOf ++ selector.anyOf ∨ other = group := by
    cases isAnd <;> simp_all [withGroup] <;> tauto
  rcases known with old | rfl
  · exact sound other old
  · exact ⟨inhabited, nodup⟩

theorem sound_withCategoryPattern {selector : CategorySelector} (sound : selector.Sound)
    (kind : PatternKind) (pattern : String) :
    (withCategoryPattern selector kind pattern).Sound := by
  cases kind with
  | regexp => exact sound
  | like => exact sound

/-- The categories that a query has for a side, none if nothing stands there. -/
theorem exists_selector (obeyed : spec.Obeys Domain) (side : Side) :
    ∃ old : Option CategorySelector,
      spec.value? (categoryKeyOf side) = old.map Value.categories ∧ (old.getD {}).Sound ∧
        categoriesOf spec (categoryKeyOf side) = old.getD {} := by
  unfold categoriesOf Specification.categories?
  cases found : spec.value? (categoryKeyOf side) with
  | none => exact ⟨none, rfl, by simp [CategorySelector.Sound], rfl⟩
  | some value =>
    obtain ⟨selector, sound, rfl⟩ := (domain_categories side).mp (obeyed _ _ found)
    exact ⟨some selector, rfl, sound, rfl⟩

theorem sound_categoriesOf (obeyed : spec.Obeys Domain) (side : Side) :
    (categoriesOf spec (categoryKeyOf side)).Sound := by
  obtain ⟨old, -, sound, held⟩ := exists_selector obeyed side
  rwa [held]

/-- The headings that a query has, none if nothing stands there. -/
theorem exists_headings (obeyed : spec.Obeys Domain) {key : String}
    (heading : key = "catheadings" ∨ key = "catnotheadings") :
    ∃ old : Option (List String), spec.value? key = old.map Value.list ∧ (old.getD []).Nodup ∧
      (spec.list? key).getD [] = old.getD [] := by
  unfold Specification.list?
  cases found : spec.value? key with
  | none => exact ⟨none, rfl, List.nodup_nil, rfl⟩
  | some value =>
    obtain ⟨items, nodup, rfl⟩ := (domain_headings heading).mp (obeyed _ _ found)
    exact ⟨some items, rfl, nodup, rfl⟩

/-- A change that leaves all values within their domains. -/
def Bounded (change : Change) : Prop :=
  ∀ w ∈ change.writes, Domain w.1 w.2

private theorem bounded_category (obeyed : spec.Obeys Domain) :
    Makes Bounded (category host spec text) := by
  intro change taken w written
  cases (makes_category change taken).2 w written with
  | group _ inhabited =>
    have sound := sound_categoriesOf obeyed .wanted
    exact ⟨_, sound_withGroup sound _ inhabited (nodup_groupOf _ _), rfl⟩
  | headings heading =>
    obtain ⟨old, -, nodup, held⟩ := exists_headings obeyed heading
    refine (domain_headings heading).mpr ⟨_, nodup_withNew ?_, rfl⟩
    rwa [held]
  | uncategorized => trivial

private theorem bounded_inNamespace (side : Side) :
    Makes Bounded (inNamespace side settings host spec text) := by
  refine makes_map fun ids read w written => ?_
  obtain rfl := List.mem_singleton.mp written
  -- There is one number for each name, and the line has a name at least.
  obtain ⟨name, names, cut⟩ := List.exists_cons_of_ne_nil (Text.split_ne_nil '|' text)
  obtain ⟨id, member⟩ : ∃ id, id ∈ ids := by
    cases ids with
    | cons id ids => exact ⟨id, List.mem_cons_self⟩
    | nil => simp [cut, List.mapM_cons, Option.bind_eq_some_iff] at read
  have held : ∃ id, id ∈ (((spec.namespaces? (namespaceKeyOf side)).getD ∅).insertMany ids) :=
    ⟨id, Std.ExtTreeSet.mem_insertMany_list.mpr (.inr (by simpa using member))⟩
  exact (domain_namespaces side).mpr ⟨_, held, rfl⟩

private theorem bounded_orderMethod (fits : Handler.fits p .orderMethod = true) :
    Makes Bounded (orderMethod p text) := by
  simp only [orderMethod]
  refine makes_ite (fun known => makes_some fun w written => ?_) fun _ => makes_none
  obtain rfl := List.mem_singleton.mp written
  rw [beq_iff_eq.mp fits] at known
  exact ⟨_, by simpa using known, rfl⟩

private theorem mem_of_not_missing {words : List String} {word : String}
    (h : ¬(!words.contains word) = true) : word ∈ words := by
  simpa using h

private theorem bounded_mode (fits : Handler.fits p .mode = true) :
    Makes Bounded (mode p text) := by
  refine makes_ite (fun _ => makes_none) fun refused => makes_some fun w written => ?_
  have known := mem_of_not_missing refused
  rw [beq_iff_eq.mp fits] at known
  split at written
  · simp only [List.mem_cons, List.not_mem_nil, or_false] at written
    rcases written with rfl | rfl
    · exact ⟨"inline", by decide, by decide, rfl⟩
    · trivial
  · rename_i named
    split at written
    · simp only [List.mem_cons, List.not_mem_nil, or_false] at written
      rcases written with rfl | rfl
      · exact domain_userformat
      · trivial
    · obtain rfl := List.mem_singleton.mp written
      exact ⟨_, known, named, rfl⟩

private theorem bounded_debug (fits : Handler.fits p .debug = true) :
    Makes Bounded (debug p text) := by
  refine makes_ite (fun _ => makes_none) fun refused => makes_map fun level read w written => ?_
  have known := mem_of_not_missing refused
  obtain rfl := List.mem_singleton.mp written
  rw [beq_iff_eq.mp fits] at known
  have levels : ∀ word ∈ ["0", "1", "2", "3", "4", "5"],
      (Number.byte? word).all (· ≤ 5) = true := by decide +kernel
  have small := levels _ known
  rw [read, Option.all_some, decide_eq_true_eq] at small
  exact ⟨level, by omega, by omega, rfl⟩

private theorem mem_setFlag {flags : Std.ExtTreeMap String Bool} {word : String}
    (all : ∀ flag, flag ∈ flags ↔ flag ∈ linkTables) (known : word ∈ Registry.linkTableFlags)
    (flag : String) : flag ∈ setFlag linkTables flags word ↔ flag ∈ linkTables := by
  unfold setFlag
  split
  · rw [Std.ExtTreeMap.mem_insertMany_list, all]
    simp [linkTables]
  · rename_i single
    -- A single flag is among those that are there, so it only changes its value.
    have singles : ∀ word ∈ Registry.linkTableFlags, ¬isFlagGroup word = true →
        word ∈ linkTables := by
      decide +kernel
    have mine := singles word known single
    rw [Std.ExtTreeMap.mem_insert, all, Std.LawfulEqCmp.compare_eq_iff_eq]
    constructor
    · rintro (rfl | old)
      · exact mine
      · exact old
    · exact .inr

private theorem mem_foldl_setFlag {flags : Std.ExtTreeMap String Bool} {words : List String}
    (all : ∀ flag, flag ∈ flags ↔ flag ∈ linkTables)
    (known : ∀ word ∈ words, word ∈ Registry.linkTableFlags) (flag : String) :
    flag ∈ words.foldl (setFlag linkTables) flags ↔ flag ∈ linkTables := by
  induction words generalizing flags with
  | nil => exact all flag
  | cons word words ih =>
    have first := mem_setFlag all (known word List.mem_cons_self)
    exact ih first fun other member => known other (List.mem_cons_of_mem word member)

private theorem bounded_flagSet (fits : Handler.fits p .flagSet = true)
    (obeyed : spec.Obeys Domain)
    (held : p.seed?.isSome = true → (spec.value? p.name).isSome = true) :
    Makes Bounded (flagSet p spec text) := by
  simp only [Handler.fits, Bool.and_eq_true, List.contains_iff_mem, beq_iff_eq] at fits
  obtain ⟨⟨flagged, named⟩, seeded⟩ := fits
  simp only [flagSet]
  refine makes_ite (fun _ => makes_none) fun refused => makes_some fun w written => ?_
  obtain rfl := List.mem_singleton.mp written
  have known : ∀ word ∈ (items ',' (Text.lower text)).filter fun word => !word.isEmpty,
      word ∈ Registry.linkTableFlags := by
    intro word member
    have all := (Bool.or_eq_false_iff.mp (eq_false_of_ne_true refused)).2
    rw [Bool.not_eq_false', named] at all
    exact List.contains_iff_mem.mp (List.all_eq_true.mp all word member)
  have others : Registry.linkTableFlags.filter (fun flag => !isFlagGroup flag) = linkTables := by
    decide +kernel
  -- The flags are there from the start, so no line of flags begins with an empty set.
  obtain ⟨value, found⟩ := Option.isSome_iff_exists.mp (held seeded)
  obtain ⟨flags, all, rfl⟩ := (domain_flags flagged).mp (obeyed _ _ found)
  have before : (spec.flags? p.name).getD ∅ = flags := by
    rw [Specification.flags?, found]
    rfl
  refine (domain_flags flagged).mpr ⟨_, ?_, rfl⟩
  rw [named, others, before]
  exact mem_foldl_setFlag all known

private theorem bounded_title : Makes Bounded (title host spec text) := by
  refine makes_map fun title _ w written => ?_
  simp only [List.mem_cons, List.not_mem_nil, or_false] at written
  rcases written with rfl | rfl | rfl | rfl
  · trivial
  · exact ⟨_, ⟨title.namespaceId, by simp⟩, rfl⟩
  · exact domain_userformat
  · exact ⟨[], by simp, rfl⟩

private theorem bounded_format : Makes Bounded (format text) := by
  refine makes_some fun w written => ?_
  simp only [List.mem_cons, List.not_mem_nil, or_false] at written
  rcases written with rfl | rfl | rfl
  · obtain ⟨atLeast, atMost⟩ := Text.length_splitAtMost ',' 3
      (Text.expandLineBreaks (Text.stripHtmlTags text))
    exact ⟨_, atLeast, atMost, rfl⟩
  · exact domain_userformat
  · trivial

private theorem bounded_table : Makes Bounded (table spec text) := by
  simp only [table]
  refine makes_some fun w written => ?_
  simp only [List.mem_append, List.mem_cons, List.not_mem_nil, or_false] at written
  rcases written with ((rfl | rfl | rfl | rfl) | written) | rfl
  · trivial
  · exact domain_userformat
  · trivial
  · exact ⟨_, by simp, by simp, rfl⟩
  · split at written
    · cases written
    · simp only [List.mem_cons, List.not_mem_nil, or_false] at written
      rcases written with rfl | rfl
      · trivial
      · trivial
  · trivial

private theorem bounded_replaceInTitle : Makes Bounded (replaceInTitle text) := by
  unfold replaceInTitle
  split
  · exact makes_none
  · rename_i pattern replacement cut
    refine makes_ite (fun _ => makes_none) fun inhabited => makes_some fun w written => ?_
    obtain rfl := List.mem_singleton.mp written
    have length := (Text.length_splitAtMost ',' 1 text).2
    rw [cut, List.length_cons] at length
    refine ⟨pattern, _, eq_false_of_ne_true inhabited, ?_, rfl⟩
    rw [List.length_map]
    omega

private theorem bounded_of_free (handler : Handler)
    (free : ∀ key ∈ handler.footprint p.name, key ∉ boundedKeys) :
    Makes Bounded (handled? settings host p spec text handler) := by
  intro change taken w written
  exact domain_of_not_mem (free w.1 ((writes_handled? handler change taken).writes w written))

/-- The rules of a handler leave all values within their domains. -/
theorem bounded_handled? (handler : Handler) (fits : handler.fits p = true)
    (obeyed : spec.Obeys Domain)
    (held : p.seed?.isSome = true → (spec.value? p.name).isSome = true) :
    Makes Bounded (handled? settings host p spec text handler) := by
  cases handler with
  | category => exact bounded_category obeyed
  | notCategory =>
    refine makes_map fun title _ w written => ?_
    obtain rfl := List.mem_singleton.mp written
    have sound := sound_categoriesOf obeyed .unwanted
    exact ⟨_, sound_withGroup sound false (List.cons_ne_nil _ _) (List.nodup_singleton _), rfl⟩
  | categoryPattern side kind =>
    refine makes_some fun w written => ?_
    obtain rfl := List.mem_singleton.mp written
    have sound : CategorySelector.Sound (if (Text.trim text).isEmpty
        then categoriesOf spec (categoryKeyOf side)
        else withCategoryPattern (categoriesOf spec (categoryKeyOf side)) kind (Text.trim text)) := by
      split
      · exact sound_categoriesOf obeyed side
      · exact sound_withCategoryPattern (sound_categoriesOf obeyed side) kind _
    exact (domain_categories side).mpr ⟨_, sound, rfl⟩
  | orderMethod =>
    show Makes Bounded (orderMethod p text)
    exact bounded_orderMethod fits
  | mode => exact bounded_mode fits
  | debug => exact bounded_debug fits
  | flagSet =>
    show Makes Bounded (flagSet p spec text)
    exact bounded_flagSet fits obeyed held
  | format => exact bounded_format
  | title => exact bounded_title
  | table => exact bounded_table
  | replaceInTitle => exact bounded_replaceInTitle
  | inNamespace side => exact bounded_inNamespace side
  | sections =>
    refine makes_ite (fun _ => makes_none) fun _ => makes_some fun w written => ?_
    simp only [List.mem_cons, List.not_mem_nil, or_false] at written
    rcases written with rfl | rfl
    · exact ⟨_, by simp [items, Text.split_ne_nil], rfl⟩
    · trivial
  | titlePattern side kind =>
    refine bounded_of_free _ ?_
    cases side with
    | wanted => simp [Handler.footprint, titleKeyOf, boundedKeys]
    | unwanted => simp [Handler.footprint, titleKeyOf, boundedKeys]
  | sectionMatch parsed negated =>
    refine bounded_of_free _ ?_
    cases parsed <;> cases negated <;> simp [Handler.footprint, boundedKeys]
  | distinct | orderCollation | notTitle | scroll | allowCachedResults | tableRow
  | sectionSeparators | multiSectionSeparators | count | openReferences =>
    refine bounded_of_free _ ?_
    simp [Handler.footprint, boundedKeys]

/-- A plain pattern captures as many texts as it has groups. -/
theorem length_capturedGroups? {source : String} {pattern : Pattern} {groups : List String}
    (known : Pattern.ofSource? source = some pattern)
    (h : capturedGroups? host p source text = some groups) :
    groups.length = pattern.groupCount := by
  rw [capturedGroups?, host.patterns.leftmostFirst known, Option.bind_some] at h
  obtain ⟨captured, read, rfl⟩ := Option.map_eq_some_iff.mp h
  obtain ⟨found, -, rfl⟩ := Option.map_eq_some_iff.mp read
  split <;> simp

/-- A parameter leaves all values within their domains. -/
theorem bounded_change? (fits : p.fits = true) (obeyed : spec.Obeys Domain)
    (held : p.seed?.isSome = true → (spec.value? p.name).isSome = true) :
    Makes Bounded (change? settings host p spec text) := by
  unfold change?
  unfold Parameter.fits at fits
  cases rules : p.handler with
  | some handler =>
    rw [rules] at fits
    exact bounded_handled? handler fits obeyed held
  | none =>
    refine makes_map fun value staged w written => ?_
    obtain rfl := List.mem_singleton.mp written
    simp only [rules, Bool.or_eq_true, Bool.not_eq_true', Bool.and_eq_true, beq_iff_eq,
      decide_eq_true_eq] at fits
    rcases fits with free | ⟨⟨named, listed⟩, two⟩
    · exact domain_of_not_mem fun bound => by simp [bound] at free
    · have kind := (kind_staged? staged).trans listed
      cases (stagedAs_of_staged? staged).2 with
      | @captured source _ groups _ _ pattern read =>
        rw [pattern, Option.bind_some] at two
        obtain ⟨parsed, known, two⟩ := (Option.any_eq_true _ _).mp two
        obtain ⟨least, most, rfl⟩ := List.length_eq_two.mp
          ((length_capturedGroups? known read).trans (beq_iff_eq.mp two))
        rw [named]
        exact ⟨least, most, rfl⟩
      | _ => cases kind

end Reading

/-- What a table has to be so that values stay within their domains. -/
structure Registry.Bounds (r : Registry) : Prop where
  seeds : ∀ p ∈ r.parameters, ∀ value, p.seed? = some value → Domain p.name value
  fits : ∀ p ∈ r.parameters, p.fits = true

private theorem domain_seed {key : String} {value : Value}
    (h : (key, value) ∈ [("mode", .text "unordered"),
      ("ordermethod", .list ["titlewithoutnamespace"]), ("debug", .int 2),
      ("reset", Registry.noFlags Registry.linkTableFlags),
      ("eliminate", Registry.noFlags Registry.linkTableFlags)]) : Domain key value := by
  have flags : ∃ flags : Std.ExtTreeMap String Bool,
      (∀ flag, flag ∈ flags ↔ flag ∈ linkTables) ∧
        Registry.noFlags Registry.linkTableFlags = .flags flags := by
    refine ⟨_, fun flag => ?_, rfl⟩
    rw [Std.ExtTreeMap.mem_ofList, List.contains_iff_mem]
    rfl
  simp only [List.mem_cons, List.not_mem_nil, or_false, Prod.mk.injEq] at h
  rcases h with ⟨rfl, rfl⟩ | ⟨rfl, rfl⟩ | ⟨rfl, rfl⟩ | ⟨rfl, rfl⟩ | ⟨rfl, rfl⟩
  · exact ⟨"unordered", by decide, by decide, rfl⟩
  · exact ⟨["titlewithoutnamespace"], by decide, rfl⟩
  · exact ⟨2, by decide, by decide, rfl⟩
  · exact flags
  · exact flags

theorem Registry.bounds_standard : Registry.standard.Bounds where
  seeds := by
    have known : ∀ p ∈ Registry.standard.parameters, ∀ value ∈ p.seed?, p.name ∉ boundedKeys ∨
        (p.name, value) ∈ [("mode", .text "unordered"),
          ("ordermethod", .list ["titlewithoutnamespace"]), ("debug", .int 2),
          ("reset", noFlags linkTableFlags), ("eliminate", noFlags linkTableFlags)] := by
      decide +kernel
    intro p member value seeded
    rcases known p member value seeded with free | listed
    · exact domain_of_not_mem free
    · exact domain_seed listed
  fits := by decide +kernel

namespace Engine

variable {e : Engine}

theorem upholds_domain (bounds : e.registry.Bounds) : e.Upholds Domain where
  seeds := bounds.seeds
  changes := by
    intro p member spec seeded obeyed text
    have held : p.seed?.isSome = true → (spec.value? p.name).isSome = true := by
      intro seed
      refine seeded p.name ?_
      rw [value?_start, Registry.find?_of_mem member]
      exact seed
    exact Reading.bounded_change? (bounds.fits p member) obeyed held

/-- Every value that comes to stand in a query is within its domain. The form and the order of the list,
the level of reports and the flags are always there. -/
theorem domain_run (standard : e.registry = .standard) (pairs : List Pair) :
    (∀ key ∈ ["mode", "ordermethod", "debug", "reset", "eliminate"],
      ((e.run e.start pairs).spec.value? key).isSome = true) ∧
    (e.run e.start pairs).spec.Obeys Domain ∧
    (e.run e.start pairs).spec.Obeys Registry.standard.Chosen ∧
    (e.run e.start pairs).spec.Obeys (Registry.standard.Paged e.host) := by
  have bounds : e.registry.Bounds := standard ▸ Registry.bounds_standard
  have chooses : e.registry.Chooses := standard ▸ Registry.chooses_standard
  have chosen := (upholds_chosen chooses).run pairs
  have paged := (upholds_paged chooses).run pairs
  rw [standard] at chosen paged
  refine ⟨fun key member => ?_, (upholds_domain bounds).run pairs, chosen, paged⟩
  have seeded : ∀ key ∈ ["mode", "ordermethod", "debug", "reset", "eliminate"],
      ((Registry.standard.find? key).bind (·.seed?)).isSome = true := by
    decide +kernel
  refine covers_run e.start pairs key ?_
  rw [value?_start, standard]
  exact seeded key member

theorem domain_run_title_table :
    let e : Engine := ⟨.standard, {}, Site.host {}⟩
    let pairs := [("title", "Help:Contents"), ("table", "nice,-,Name"), ("order", "Descending"),
      ("linksto", "Main Page"), ("reset", "links,bogus"), ("mode", "none")]
    let spec := (e.run e.start pairs).spec
    (spec.value? "reset").isSome = true ∧
      spec.value? "mode" = some (.text "inline") ∧ Domain "mode" (.text "inline") ∧
      spec.value? "ordermethod" = some (.list []) ∧ Domain "ordermethod" (.list []) ∧
      spec.value? "order" = some (.text "descending") ∧
      Registry.standard.Chosen "order" (.text "descending") := by
  intro e pairs spec
  obtain ⟨held, within, chosen, -⟩ := domain_run (e := e) rfl pairs
  obtain ⟨mode, methods, order⟩ : spec.value? "mode" = some (.text "inline") ∧
      spec.value? "ordermethod" = some (.list []) ∧
      spec.value? "order" = some (.text "descending") := by decide +kernel
  exact ⟨held "reset" (by simp), mode, within _ _ mode, methods, within _ _ methods, order,
    chosen _ _ order⟩

end Engine

end WikiQuery

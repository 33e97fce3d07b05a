import WikiQuery.Proofs.Choice
import WikiQuery.Proofs.Lowering

/-!
The list of the only namespaces that may be asked for. Every namespace that a query asks for or shuts
out is named on it, but for those of the titles that are asked for: a title brings its namespace.
-/

set_option autoImplicit false

namespace WikiQuery

theorem Namespace.ofName?_lowerAscii (name : String) :
    ofName? (Text.lowerAscii name) = ofName? name := by
  have same : ∀ other, Text.eqIgnoringCase other
        (Text.normalizeSpaces (Text.fromKey (Text.lowerAscii name))) =
      Text.eqIgnoringCase other (Text.normalizeSpaces (Text.fromKey name)) := by
    intro other
    rw [Text.fromKey_lowerAscii, Text.normalizeSpaces_lowerAscii, Text.eqIgnoringCase_lowerAscii]
  unfold ofName?
  simp only [same]

namespace Site

theorem namespaceKey_lowerAscii (name : String) :
    namespaceKey (Text.lowerAscii name) = namespaceKey name := by
  rw [namespaceKey, Text.fromKey_lowerAscii, Text.normalizeSpaces_lowerAscii,
    Text.lower_lowerAscii, namespaceKey]

theorem indexAmong_lowerAscii (own : List (String × Int)) (name : String) :
    indexAmong own (Text.lowerAscii name) = indexAmong own name := by
  have canonical := Namespace.ofName?_lowerAscii name
  have key := namespaceKey_lowerAscii name
  unfold indexAmong
  rw [canonical, key]

/-- The case of ASCII letters does not count in the name of a namespace. -/
theorem namespaceIndex_congr (site : Site) {name other : String}
    (same : Text.eqIgnoringCase name other = true) :
    site.namespaceIndex name = site.namespaceIndex other := by
  calc site.namespaceIndex name
    _ = site.namespaceIndex (Text.lowerAscii name) := (indexAmong_lowerAscii _ name).symm
    _ = site.namespaceIndex (Text.lowerAscii other) := by rw [beq_iff_eq.mp same]
    _ = site.namespaceIndex other := indexAmong_lowerAscii _ other

/-- A namespace that is named on a list. -/
def Lists (site : Site) (names : List String) (id : Int) : Prop :=
  ∃ name ∈ names, site.namespaceIndex (Text.trim name) = some id

end Site

namespace Reading

variable {settings : Settings} {site : Site} {allowed : List String} {spec : Specification}
  {text name : String} {side : Side} {id : Int}

theorem lists_of_allowedNamespace? (known : settings.allowedNamespaces = some allowed)
    (granted : allowedNamespace? settings site.host (Text.trim name) = some id) :
    site.Lists allowed id := by
  rw [allowedNamespace?, Option.ite_none_right_eq_some, Site.namespaceIndex_host] at granted
  obtain ⟨allows, index⟩ := granted
  simp only [Settings.allowsNamespace, known, List.any_eq_true] at allows
  obtain ⟨candidate, member, same⟩ := allows
  have trimmed : Text.trim (Text.trim name) = Text.trim name := by
    simp only [Text.trim, String.toList_ofList, Text.trimmed_trimmed]
  rw [trimmed] at same
  exact ⟨candidate, member, (site.namespaceIndex_congr same).trans index⟩

/-- A line of namespaces adds none that are not on the list. -/
theorem mem_inNamespace (known : settings.allowedNamespaces = some allowed) {change : Change}
    (taken : inNamespace side settings site.host spec text = some change) :
    ∃ ids, change.writes = [(namespaceKeyOf side, .namespaces ids)] ∧
      ∀ id ∈ ids, id ∈ (spec.namespaces? (namespaceKeyOf side)).getD ∅ ∨ site.Lists allowed id := by
  obtain ⟨ids, read, rfl⟩ := Option.map_eq_some_iff.mp taken
  refine ⟨_, rfl, fun id member => ?_⟩
  rcases Std.ExtTreeSet.mem_insertMany_list.mp member with old | new
  · exact .inl old
  · obtain ⟨part, listed, granted⟩ := exists_of_mem_mapM read id (by simpa using new)
    obtain ⟨name, -, rfl⟩ := List.mem_map.mp listed
    exact .inr (lists_of_allowedNamespace? known granted)

theorem title_writes {host : Host} {change : Change} (taken : title host spec text = some change) :
    ∃ title, host.resolveTitle text = some title ∧ ∀ w ∈ change.writes, w.1 = "namespace" →
      w.2 = .namespaces (Std.ExtTreeSet.ofList [title.namespaceId] compare) := by
  obtain ⟨title, resolved, rfl⟩ := Option.map_eq_some_iff.mp taken
  refine ⟨title, resolved, fun w written => ?_⟩
  simp only [List.mem_cons, List.not_mem_nil, or_false] at written
  rcases written with rfl | rfl | rfl | rfl
  · simp
  · simp
  · simp
  · simp

/-- Besides the parameters for namespaces, that for titles writes to those that are asked for. -/
private theorem namespace_writers :
    ∀ p ∈ Registry.standard.parameters,
      ("namespace" ∈ p.footprint → p.handler = some (.inNamespace .wanted) ∨
        p.name = "title" ∧ p.handler = some .title) ∧
      ("notnamespace" ∈ p.footprint → p.handler = some (.inNamespace .unwanted)) := by
  decide +kernel

theorem handler_of_namespace_mem_footprint {p : Parameter}
    (member : p ∈ Registry.standard.parameters) (touched : namespaceKeyOf side ∈ p.footprint) :
    p.handler = some (.inNamespace side) ∨
      side = .wanted ∧ p.name = "title" ∧ p.handler = some .title := by
  obtain ⟨wanted, unwanted⟩ := namespace_writers p member
  cases side with
  | wanted => exact (wanted touched).imp_right fun titled => ⟨rfl, titled⟩
  | unwanted => exact .inl (unwanted touched)

end Reading

open Reading (namespaceKeyOf)

/-- A namespace is among those that a query asks for, or among those that it shuts out. -/
def Specification.Names (s : Specification) (side : Side) (id : Int) : Prop :=
  ∃ ids, s.value? (namespaceKeyOf side) = some (.namespaces ids) ∧ id ∈ ids

theorem Specification.names_of_mem_namespaces? {s : Specification} {side : Side} {id : Int}
    (h : id ∈ (s.namespaces? (namespaceKeyOf side)).getD ∅) : s.Names side id := by
  unfold namespaces? at h
  split at h
  · rename_i ids held
    exact ⟨ids, held, h⟩
  · simp at h

namespace Engine

variable {e : Engine} {s : Session} {name text : String} {pairs : List Pair} {site : Site}
  {allowed : List String} {side : Side} {id : Int}

/-- A title that a pair asks for has this namespace. -/
def BringsTitle (site : Site) (pair : Pair) (id : Int) : Prop :=
  pair.1 = "title" ∧ ∃ title, site.resolveTitle pair.2 = some title ∧ title.namespaceId = id

/-- A pair brings namespaces that are on the list, or that of its title. -/
theorem names_process (standard : e.registry = .standard) (hosted : e.host = site.host)
    (known : e.settings.allowedNamespaces = some allowed)
    (h : (e.process s name text).1.spec.Names side id) :
    s.spec.Names side id ∨ site.Lists allowed id ∨
      side = .wanted ∧ (e.process s name text).2 = none ∧ BringsTitle site (name, text) id := by
  obtain ⟨ids, held, member⟩ := h
  rcases e.value?_process_cases s name text (namespaceKeyOf side) with
    kept | ⟨p, change, found, taken, answer, w, written, key, value⟩
  · exact .inl ⟨ids, kept.symm.trans held, member⟩
  · have same : w.2 = .namespaces ids := Option.some.inj (value.symm.trans held)
    have entry := mem_of_lookup found
    have touched := (Reading.writes_change? change taken).writes w written
    rw [standard] at entry
    rw [key] at touched
    rw [Reading.change?, hosted] at taken
    -- What is written comes from a line of namespaces or from a title.
    rcases Reading.handler_of_namespace_mem_footprint entry touched with
      rules | ⟨rfl, titled, rules⟩
    · rw [rules] at taken
      obtain ⟨gathered, single, sources⟩ := Reading.mem_inNamespace known taken
      rw [single, List.mem_singleton] at written
      rw [written, Value.namespaces.injEq] at same
      rcases sources id (same ▸ member) with old | new
      · exact .inl (Specification.names_of_mem_namespaces? old)
      · exact .inr (.inl new)
    · rw [rules] at taken
      obtain ⟨title, resolved, writes⟩ := Reading.title_writes taken
      rw [writes w written key, Value.namespaces.injEq] at same
      have single : title.namespaceId = id := by simpa [← same] using member
      have named : name = "title" := (name_of_lookup found).symm.trans titled
      exact .inr (.inr ⟨rfl, answer, named, title, site.resolveTitle_host text ▸ resolved, single⟩)

theorem names_run (standard : e.registry = .standard) (hosted : e.host = site.host)
    (known : e.settings.allowedNamespaces = some allowed)
    (h : (e.run s pairs).spec.Names side id) :
    s.spec.Names side id ∨ site.Lists allowed id ∨
      side = .wanted ∧ ∃ pair ∈ e.accepted s pairs, BringsTitle site pair id := by
  induction pairs generalizing s with
  | nil => exact .inl h
  | cons pair pairs ih =>
    rcases ih h with here | onList | ⟨wanted, other, member, titled⟩
    · rcases names_process standard hosted known here with before | onList | ⟨wanted, answer, titled⟩
      · exact .inl before
      · exact .inr (.inl onList)
      · refine .inr (.inr ⟨wanted, pair, ?_, titled⟩)
        rw [accepted_cons_of_none answer]
        exact List.mem_cons_self
    · exact .inr (.inl onList)
    · exact .inr (.inr ⟨wanted, other, mem_accepted_cons member, titled⟩)

theorem not_names_start (standard : e.registry = .standard) : ¬e.start.spec.Names side id := by
  have unseeded : ∀ key ∈ ["namespace", "notnamespace"],
      (Registry.standard.find? key).bind (·.seed?) = none := by
    decide +kernel
  rintro ⟨ids, held, -⟩
  rw [value?_start, standard] at held
  cases side with
  | wanted => rw [unseeded (namespaceKeyOf .wanted) (by decide)] at held; cases held
  | unwanted => rw [unseeded (namespaceKeyOf .unwanted) (by decide)] at held; cases held

/-- Where a list of namespaces is set, no pairs come to a query that shuts out another namespace, or
that asks for another one than those of the titles that it asks for. -/
theorem namespaces_run (standard : e.registry = .standard) (hosted : e.host = site.host)
    (known : e.settings.allowedNamespaces = some allowed) (pairs : List Pair) :
    (∀ ids, (e.run e.start pairs).spec.value? "notnamespace" = some (.namespaces ids) → ∀ id ∈ ids,
      ∃ name ∈ allowed, site.namespaceIndex (Text.trim name) = some id) ∧
    ∀ ids, (e.run e.start pairs).spec.value? "namespace" = some (.namespaces ids) → ∀ id ∈ ids,
      (∃ name ∈ allowed, site.namespaceIndex (Text.trim name) = some id) ∨
        ∃ pair ∈ e.accepted e.start pairs, pair.1 = "title" ∧
          ∃ title, site.resolveTitle pair.2 = some title ∧ title.namespaceId = id := by
  constructor
  · intro ids held id member
    have named : (e.run e.start pairs).spec.Names .unwanted id := ⟨ids, held, member⟩
    rcases names_run standard hosted known named with start | onList | ⟨wanted, -⟩
    · exact absurd start (not_names_start standard)
    · exact onList
    · cases wanted
  · intro ids held id member
    have named : (e.run e.start pairs).spec.Names .wanted id := ⟨ids, held, member⟩
    rcases names_run standard hosted known named with start | onList | ⟨-, titled⟩
    · exact absurd start (not_names_start standard)
    · exact .inl onList
    · exact .inr titled

theorem namespaces_run_help :
    let e : Engine := ⟨.standard, { allowedNamespaces := some ["Help"] }, Site.host {}⟩
    let pairs := [("title", "Main Page"), ("namespace", "HELP"), ("notnamespace", "User|Help")]
    let spec := (e.run e.start pairs).spec
    spec.value? "notnamespace" = none ∧
      ∃ ids, spec.value? "namespace" = some (.namespaces ids) ∧ 0 ∈ ids ∧ 12 ∈ ids ∧
        ∀ id ∈ ids, (∃ name ∈ ["Help"], Site.namespaceIndex {} (Text.trim name) = some id) ∨
          ∃ pair ∈ e.accepted e.start pairs, pair.1 = "title" ∧
            ∃ title, Site.resolveTitle {} pair.2 = some title ∧ title.namespaceId = id := by
  intro e pairs spec
  have held : spec.value? "namespace" = some (.namespaces (.ofList [0, 12] compare)) := by
    decide +kernel
  have hosted : e.host = Site.host {} := rfl
  have known : e.settings.allowedNamespaces = some ["Help"] := rfl
  obtain ⟨-, wanted⟩ := namespaces_run rfl hosted known pairs
  exact ⟨by decide +kernel, _, held, by decide, by decide, wanted _ held⟩

/-- A title brings its namespace even if that is not on the list. -/
theorem namespaces_run_title :
    ¬∀ (settings : Settings) (allowed : List String) (site : Site) (pairs : List Pair),
      settings.allowedNamespaces = some allowed →
      ∀ key ∈ ["namespace", "notnamespace"], ∀ ids,
        (Engine.run ⟨.standard, settings, site.host⟩ (Engine.start ⟨.standard, settings, site.host⟩)
          pairs).spec.value? key = some (.namespaces ids) →
        ∀ id ∈ ids, ∃ name ∈ allowed, site.namespaceIndex (Text.trim name) = some id := by
  intro claimed
  have held : (Engine.run ⟨.standard, { allowedNamespaces := some ["Help"] }, Site.host {}⟩
      (Engine.start ⟨.standard, { allowedNamespaces := some ["Help"] }, Site.host {}⟩)
      [("title", "Main Page")]).spec.value? "namespace" =
        some (.namespaces (.ofList [0] compare)) := by
    decide +kernel
  obtain ⟨name, member, index⟩ := claimed { allowedNamespaces := some ["Help"] } ["Help"] {}
    [("title", "Main Page")] rfl "namespace" (by decide) _ held 0 (by decide)
  obtain rfl := List.mem_singleton.mp member
  have help : Site.namespaceIndex {} (Text.trim "Help") = some 12 := by decide +kernel
  rw [help] at index
  cases index

end Engine

end WikiQuery

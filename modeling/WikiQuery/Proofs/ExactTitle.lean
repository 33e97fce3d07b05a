import WikiQuery.Proofs.AllowList

/-!
Exact titles and the namespaces that are asked for. The titles that are asked for gather, but each
of them fixes the namespace anew. So what a run asks for in the end is told from its accepted pairs:
the titles of all of them, and the namespaces that some pair brings and no later title narrows away.
-/

set_option autoImplicit false

namespace WikiQuery

open Reading (titlesOf)

namespace Pair

variable {host : Host} {pair : Pair} {id : Int}

/-- The exact title that a pair asks for. -/
def title? (host : Host) (pair : Pair) : Option Title :=
  if pair.1 = "title" then host.resolveTitle pair.2 else none

/-- A pair asks for a namespace, by its name or with a title of it. -/
def Brings (host : Host) (pair : Pair) (id : Int) : Prop :=
  (∃ title ∈ pair.title? host, title.namespaceId = id) ∨
    pair.1 = "namespace" ∧
      ∃ name ∈ Text.split '|' pair.2, host.namespaceIndex (Text.trim name) = some id

/-- A pair asks for no title of another namespace. -/
def Spares (host : Host) (pair : Pair) (id : Int) : Prop :=
  ∀ title ∈ pair.title? host, title.namespaceId = id

instance (host : Host) (pair : Pair) (id : Int) : Decidable (pair.Brings host id) :=
  inferInstanceAs (Decidable ((∃ title ∈ pair.title? host, title.namespaceId = id) ∨
    pair.1 = "namespace" ∧
      ∃ name ∈ Text.split '|' pair.2, host.namespaceIndex (Text.trim name) = some id))

instance (host : Host) (pair : Pair) (id : Int) : Decidable (pair.Spares host id) :=
  inferInstanceAs (Decidable (∀ title ∈ pair.title? host, title.namespaceId = id))

theorem title?_of_named {text : String} : title? host ("title", text) = host.resolveTitle text :=
  if_pos rfl

theorem title?_of_ne {name text : String} (other : name ≠ "title") :
    title? host (name, text) = none :=
  if_neg other

end Pair

theorem Specification.names_iff {s : Specification} {side : Side} {id : Int} :
    s.Names side id ↔ id ∈ (s.namespaces? (Reading.namespaceKeyOf side)).getD ∅ := by
  refine ⟨?_, names_of_mem_namespaces?⟩
  rintro ⟨ids, held, member⟩
  rw [namespaces?, held]
  exact member

namespace Reading

variable {settings : Settings} {host : Host} {spec other : Specification}
  {text : String} {change : Change} {id : Int}

theorem titlesOf_eq {key : String} {selector : TitleSelector}
    (held : spec.value? key = some (.titles selector)) : titlesOf spec key = selector := by
  simp [titlesOf, Specification.titles?, held]

theorem titlesOf_congr {key : String} (same : other.value? key = spec.value? key) :
    titlesOf other key = titlesOf spec key := by
  simp only [titlesOf, Specification.titles?, same]

theorem names_congr (same : other.value? "namespace" = spec.value? "namespace") :
    other.Names .wanted id ↔ spec.Names .wanted id := by
  simp only [Specification.Names, namespaceKeyOf, same]

theorem names_eq {ids : Std.ExtTreeSet Int}
    (held : spec.value? "namespace" = some (.namespaces ids)) :
    spec.Names .wanted id ↔ id ∈ ids := by
  simp [Specification.names_iff, Specification.namespaces?, namespaceKeyOf, held]

/-- A title takes the place of all namespaces that were asked for, and stands behind the titles. -/
theorem title_write (other : Specification) (taken : title host spec text = some change) :
    ∃ title, host.resolveTitle text = some title ∧
      (titlesOf (other.write change.writes) "title").exact =
        (titlesOf spec "title").exact ++ [title.key] ∧
      ∀ id, (other.write change.writes).Names .wanted id ↔ title.namespaceId = id := by
  obtain ⟨title, resolved, made⟩ := Option.map_eq_some_iff.mp taken
  have titles : (other.write change.writes).value? "title" =
      some (.titles (withExact (titlesOf spec "title") title.key)) :=
    other.value?_write_of_mem (by simp [← made]) (by simp [← made])
  have ids : (other.write change.writes).value? "namespace" =
      some (.namespaces (Std.ExtTreeSet.ofList [title.namespaceId] compare)) :=
    other.value?_write_of_mem (by simp [← made]) (by simp [← made])
  refine ⟨title, resolved, ?_, fun id => ?_⟩
  · rw [titlesOf_eq titles, withExact]
  · rw [names_eq ids]
    simp

theorem titlePattern_write {kind : PatternKind} (other : Specification)
    (taken : titlePattern .wanted kind spec text = some change) :
    (titlesOf (other.write change.writes) "title").exact = (titlesOf spec "title").exact := by
  simp only [titlePattern, Option.ite_none_left_eq_some, Option.some.injEq] at taken
  obtain ⟨-, made⟩ := taken
  have titles : (other.write change.writes).value? "title" =
      some (.titles (withTitlePatterns (titlesOf spec "title") kind (titlePatterns text))) :=
    other.value?_write_of_mem (by simp [← made]) (by simp [← made, titleKeyOf])
  rw [titlesOf_eq titles]
  cases kind <;> rfl

/-- A line of namespaces adds all of them to those that were asked for. -/
theorem inNamespace_write (other : Specification)
    (taken : inNamespace .wanted settings host spec text = some change) :
    (other.write change.writes).Names .wanted id ↔
      spec.Names .wanted id ∨
        ∃ name ∈ Text.split '|' text, host.namespaceIndex (Text.trim name) = some id := by
  obtain ⟨ids, read, made⟩ := Option.map_eq_some_iff.mp taken
  have held : (other.write change.writes).value? "namespace" =
      some (.namespaces (((spec.namespaces? "namespace").getD ∅).insertMany ids)) :=
    other.value?_write_of_mem (by simp [← made]) (by simp [← made, namespaceKeyOf])
  have new : id ∈ ids ↔
      ∃ name ∈ Text.split '|' text, host.namespaceIndex (Text.trim name) = some id := by
    constructor
    · intro member
      obtain ⟨part, listed, granted⟩ := exists_of_mem_mapM read id member
      obtain ⟨name, given, rfl⟩ := List.mem_map.mp listed
      exact ⟨name, given, (Option.ite_none_right_eq_some.mp granted).2⟩
    · rintro ⟨name, given, index⟩
      have listed := List.mem_map_of_mem (f := Text.trim) given
      obtain ⟨found, member, granted⟩ := exists_mem_of_mapM read _ listed
      have same := (Option.ite_none_right_eq_some.mp granted).2
      rw [index, Option.some.injEq] at same
      exact same ▸ member
  rw [names_eq held, Std.ExtTreeSet.mem_insertMany_list, Specification.names_iff, ← new]
  simp [namespaceKeyOf]

/-- An exact title is asked for by one parameter, patterns for titles by two, and namespaces by name
by one. -/
private theorem title_writers :
    ∀ p ∈ Registry.standard.parameters,
      (p.name = "title" → p.handler = some .title) ∧
      (p.name = "namespace" → p.handler = some (.inNamespace .wanted)) ∧
      (p.name ≠ "title" → p.name ≠ "namespace" → "namespace" ∉ p.footprint) ∧
      (p.name ≠ "title" → "title" ∈ p.footprint →
        p.handler = some (.titlePattern .wanted .regexp) ∨
          p.handler = some (.titlePattern .wanted .like)) := by
  decide +kernel

end Reading

namespace Engine

variable {e : Engine} {s : Session} {name text : String} {pairs : List Pair} {id : Int}

/-- A title that is asked for stands behind those before it, and no other pair adds one. -/
theorem exact_process (standard : e.registry = .standard)
    (taken : (e.process s name text).2 = none) :
    (titlesOf (e.process s name text).1.spec "title").exact =
      (titlesOf s.spec "title").exact ++
        ((Pair.title? e.host (name, text)).map (·.key)).toList := by
  obtain ⟨p, change, found, read, processed⟩ := exists_change_of_answer taken
  obtain ⟨titled, -, -, patterns⟩ := Reading.title_writers p (standard ▸ mem_of_lookup found)
  have same := name_of_lookup found
  by_cases here : name = "title"
  · rw [Reading.change?, titled (same.trans here)] at read
    obtain ⟨title, resolved, exact, -⟩ := Reading.title_write s.spec read
    rw [processed, here, Pair.title?_of_named, resolved]
    exact exact
  · rw [Pair.title?_of_ne here, Option.map_none, Option.toList_none, List.append_nil]
    by_cases touched : "title" ∈ p.footprint
    · rw [processed]
      rw [Reading.change?] at read
      rcases patterns (same ▸ here) touched with rules | rules
      · rw [rules] at read
        exact Reading.titlePattern_write s.spec read
      · rw [rules] at read
        exact Reading.titlePattern_write s.spec read
    · rw [← footprint_of_lookup found] at touched
      rw [Reading.titlesOf_congr (value?_process_of_not_mem touched)]

/-- After a pair the namespaces are asked for that it brings, and of the others those it spares. -/
theorem names_process_iff (standard : e.registry = .standard)
    (taken : (e.process s name text).2 = none) :
    (e.process s name text).1.spec.Names .wanted id ↔
      Pair.Brings e.host (name, text) id ∨
        s.spec.Names .wanted id ∧ Pair.Spares e.host (name, text) id := by
  obtain ⟨p, change, found, read, processed⟩ := exists_change_of_answer taken
  obtain ⟨titled, spaced, apart, -⟩ := Reading.title_writers p (standard ▸ mem_of_lookup found)
  have same := name_of_lookup found
  have written : (e.process s name text).1.spec.Names .wanted id ↔
      (s.spec.write change.writes).Names .wanted id := by
    rw [processed]
    rfl
  rw [Pair.Brings, Pair.Spares]
  by_cases here : name = "title"
  · rw [Reading.change?, titled (same.trans here)] at read
    obtain ⟨title, resolved, -, ids⟩ := Reading.title_write s.spec read
    have only := written.trans (ids id)
    rw [here] at only
    rw [here, Pair.title?_of_named, resolved]
    simp only [Option.mem_some_iff, exists_eq_left', forall_eq', String.reduceEq, false_and,
      or_false]
    exact only.trans ⟨.inl, fun same => same.elim (fun here => here) And.right⟩
  · rw [Pair.title?_of_ne here]
    by_cases there : name = "namespace"
    · rw [Reading.change?, spaced (same.trans there)] at read
      have both := written.trans (Reading.inNamespace_write s.spec read)
      simpa [there, or_comm] using both
    · have untouched := apart (same ▸ here) (same ▸ there)
      rw [← footprint_of_lookup found] at untouched
      rw [Reading.names_congr (value?_process_of_not_mem untouched)]
      simp [there]

/-- The exact titles of a run are those of its accepted pairs, in their order. -/
theorem exact_run (standard : e.registry = .standard) (s : Session) (pairs : List Pair) :
    (titlesOf (e.run s pairs).spec "title").exact =
      (titlesOf s.spec "title").exact ++
        (e.accepted s pairs).filterMap fun pair => (pair.title? e.host).map (·.key) := by
  induction pairs generalizing s with
  | nil => exact (List.append_nil _).symm
  | cons pair pairs ih =>
    rw [run_cons, ih]
    cases answer : (e.process s pair.1 pair.2).2 with
    | none =>
      rw [accepted_cons_of_none answer, exact_process standard answer, List.append_assoc]
      cases asked : (pair.title? e.host).map (·.key) <;> simp [asked]
    | some refusal =>
      rw [accepted_cons_of_some answer,
        Reading.titlesOf_congr (value?_process_of_refused answer "title")]

/-- A run asks for the namespaces that last among its accepted pairs, and for those from before it
that all of them spare. -/
theorem names_run_iff (standard : e.registry = .standard) (s : Session) (pairs : List Pair) :
    (e.run s pairs).spec.Names .wanted id ↔
      Lasts (Pair.Brings e.host · id) (Pair.Spares e.host · id) (e.accepted s pairs) ∨
        s.spec.Names .wanted id ∧ ∀ pair ∈ e.accepted s pairs, pair.Spares e.host id := by
  induction pairs generalizing s with
  | nil => simp [accepted, answers, not_lasts_nil]
  | cons pair pairs ih =>
    rw [run_cons, ih]
    cases answer : (e.process s pair.1 pair.2).2 with
    | none =>
      rw [accepted_cons_of_none answer, lasts_cons_iff, names_process_iff standard answer,
        List.forall_mem_cons]
      tauto
    | some refusal =>
      rw [accepted_cons_of_some answer,
        Reading.names_congr (value?_process_of_refused answer "namespace")]

theorem titlesOf_start (standard : e.registry = .standard) :
    titlesOf e.start.spec "title" = {} := by
  have unseeded : (Registry.standard.find? "title").bind (·.seed?) = none := by decide +kernel
  rw [titlesOf, Specification.titles?, value?_start, standard, unseeded]
  rfl

theorem exists_title_of_mem_accepted (standard : e.registry = .standard) {pair : Pair}
    (accepted : pair ∈ e.accepted s pairs) (named : pair.1 = "title") :
    ∃ title, e.host.resolveTitle pair.2 = some title ∧ pair.title? e.host = some title := by
  obtain ⟨before, after, -, taken⟩ := exists_of_mem_accepted accepted
  obtain ⟨p, change, found, read, -⟩ := exists_change_of_answer taken
  obtain ⟨titled, -⟩ := Reading.title_writers p (standard ▸ mem_of_lookup found)
  rw [Reading.change?, titled ((name_of_lookup found).trans named)] at read
  obtain ⟨title, resolved, -⟩ := Option.map_eq_some_iff.mp read
  exact ⟨title, resolved, (if_pos named).trans resolved⟩

/-- A run asks for the exact titles of all its accepted pairs, in their order, and for the namespaces
that last among them. So an exact title is asked for together with its namespace, unless a later title
that is accepted is one of another namespace. -/
theorem title_run (standard : e.registry = .standard) (pairs : List Pair) :
    (titlesOf (e.run e.start pairs).spec "title").exact =
        (e.accepted e.start pairs).filterMap (fun pair => (pair.title? e.host).map (·.key)) ∧
      (∀ id, (e.run e.start pairs).spec.Names .wanted id ↔
        Lasts (Pair.Brings e.host · id) (Pair.Spares e.host · id) (e.accepted e.start pairs)) ∧
      ∀ before pair after, e.accepted e.start pairs = before ++ pair :: after → pair.1 = "title" →
        ∃ title, e.host.resolveTitle pair.2 = some title ∧
          title.key ∈ (titlesOf (e.run e.start pairs).spec "title").exact ∧
          ((e.run e.start pairs).spec.Names .wanted title.namespaceId ∨
            ∃ other ∈ after, other.1 = "title" ∧ ∃ later, e.host.resolveTitle other.2 = some later ∧
              later.namespaceId ≠ title.namespaceId) := by
  have exact := exact_run standard e.start pairs
  rw [titlesOf_start standard, List.nil_append] at exact
  have names : ∀ id, (e.run e.start pairs).spec.Names .wanted id ↔
      Lasts (Pair.Brings e.host · id) (Pair.Spares e.host · id) (e.accepted e.start pairs) := by
    intro id
    rw [names_run_iff standard, or_iff_left]
    exact fun seeded => not_names_start standard seeded.1
  refine ⟨exact, names, fun before pair after split named => ?_⟩
  have member : pair ∈ e.accepted e.start pairs := by simp [split]
  obtain ⟨title, resolved, asked⟩ := exists_title_of_mem_accepted standard member named
  refine ⟨title, resolved, ?_, ?_⟩
  · rw [exact]
    exact List.mem_filterMap.mpr ⟨pair, member, by rw [asked]; rfl⟩
  · by_cases spared : ∀ other ∈ after, other.Spares e.host title.namespaceId
    · exact .inl ((names _).mpr ⟨before, pair, after, split, .inl ⟨title, asked, rfl⟩, spared⟩)
    · -- A pair that does not spare a namespace is a title of another one.
      simp only [Pair.Spares, Pair.title?, not_forall] at spared
      obtain ⟨other, there, later, found, differ⟩ := spared
      rw [Option.mem_def, Option.ite_none_right_eq_some] at found
      exact .inr ⟨other, there, found.1, later, found.2, differ⟩

theorem title_run_help :
    let e : Engine := ⟨.standard, {}, Site.host {}⟩
    let pairs := [("title", "Main Page"), ("title", "Help:Contents"), ("namespace", "User"),
      ("titlematch", "A%"), ("title", "#")]
    let spec := (e.run e.start pairs).spec
    (titlesOf spec "title").exact = ["Main_Page", "Contents"] ∧
      spec.Names .wanted 12 ∧ spec.Names .wanted 2 ∧ ¬spec.Names .wanted 0 ∧
      ∃ title, e.host.resolveTitle "Help:Contents" = some title ∧
        title.key ∈ (titlesOf spec "title").exact := by
  intro e pairs spec
  obtain ⟨exact, names, titles⟩ := title_run (e := e) rfl pairs
  have split : e.accepted e.start pairs =
      [("title", "Main Page")] ++ ("title", "Help:Contents") ::
        [("namespace", "User"), ("titlematch", "A%")] := by
    decide +kernel
  obtain ⟨title, resolved, member, -⟩ := titles _ _ _ split rfl
  exact ⟨exact.trans (by decide +kernel), (names 12).mpr (by decide +kernel),
    (names 2).mpr (by decide +kernel), fun left => absurd ((names 0).mp left) (by decide +kernel),
    title, resolved, member⟩

/-- A title of another namespace narrows that of an exact title away, which is still asked for. -/
theorem title_run_narrowed :
    ¬∀ (settings : Settings) (site : Site) (pairs : List Pair),
      let e : Engine := ⟨.standard, settings, site.host⟩
      let spec := (e.run e.start pairs).spec
      ∀ pair ∈ e.accepted e.start pairs, pair.1 = "title" →
        ∀ title, site.resolveTitle pair.2 = some title →
          title.key ∈ (titlesOf spec "title").exact →
          ∃ ids, spec.value? "namespace" = some (.namespaces ids) ∧ title.namespaceId ∈ ids := by
  intro claimed
  let e : Engine := ⟨.standard, {}, Site.host {}⟩
  let pairs := [("title", "Help:Contents"), ("title", "Main Page")]
  have taken : ("title", "Help:Contents") ∈ e.accepted e.start pairs := by decide +kernel
  have resolved : Site.resolveTitle {} "Help:Contents" = some ⟨12, "Contents"⟩ := by decide +kernel
  have asked : "Contents" ∈ (titlesOf (e.run e.start pairs).spec "title").exact := by decide +kernel
  have held : (e.run e.start pairs).spec.value? "namespace" =
      some (.namespaces (.ofList [0] compare)) := by
    decide +kernel
  obtain ⟨ids, held', member⟩ := claimed {} {} pairs _ taken rfl _ resolved asked
  rw [held, Option.some.injEq, Value.namespaces.injEq] at held'
  rw [← held'] at member
  exact absurd member (by decide)

end Engine

end WikiQuery

import WikiQuery.Proofs.Kind

/-!
What the common way of reading lets through. A parameter for which values are named holds one of them,
and the groups of a list of pages have members, each of them a page of the sort that is asked for.
-/

set_option autoImplicit false

namespace WikiQuery

/-- The pages that a list may hold: the titles that names stand for, or names as they are. -/
def PageNames.Admits (host : Host) (kind : PageNames) (page : PageReference) : Prop :=
  match kind with
  | .titles => ∃ name title, host.resolveTitle name = some title ∧ page = .title title
  | .anyNames => ∃ name, page = .name name

namespace Registry

/-- Under the name of a parameter that is read in the common way, and for which values are named, one
of these stands. -/
def Chosen (r : Registry) (key : String) (value : Value) : Prop :=
  ∀ p, r.find? key = some p → p.handler = none → ∀ words, p.values = some words →
    ∃ word ∈ words, value = .text word

/-- Groups of pages stand under the names of lists of pages only, and hold pages that these admit. -/
def Paged (r : Registry) (host : Host) (key : String) (value : Value) : Prop :=
  ∀ groups, value = .pageGroups groups →
    ∃ p kind, r.find? key = some p ∧ p.pageNames = some kind ∧
      ∀ group ∈ groups, group ≠ [] ∧ ∀ page ∈ group, kind.Admits host page

/-- What a table has to be so that only named values come to stand under its parameters: those for which
values are named, and which are read in the common way, keep the text that they compare, and no other
parameter writes to them. No seed is a group of pages. -/
structure Chooses (r : Registry) : Prop where
  seeds : ∀ p ∈ r.parameters, p.handler = none → ∀ words ∈ p.values, ∀ value ∈ p.seed?,
    ∃ word ∈ words, value = .text word
  common : ∀ p ∈ r.parameters, p.handler = none → p.values.isSome = true →
    p.commonKind = .text ∧ p.isTimestamp = false ∧ p.isKey = false ∧ p.preservesCase = false ∧
      p.stripsHtml = false
  writers : ∀ p ∈ r.parameters, ∀ key ∈ p.footprint, ∀ q ∈ r.find? key, q.handler = none →
    q.values.isSome = true → q = p
  unpaged : ∀ p ∈ r.parameters, ∀ value ∈ p.seed?, value.kind ≠ .pageGroups

theorem chooses_standard : Registry.standard.Chooses where
  seeds := by decide +kernel
  common := by decide +kernel
  writers := by decide +kernel
  unpaged := by decide +kernel

end Registry

theorem Handler.layout_ne_pageGroups (handler : Handler) (name : String) :
    ∀ entry ∈ handler.layout name, entry.2 ≠ .pageGroups := by
  cases handler <;> simp [Handler.layout]

theorem Specification.exists_of_mem_pageGroups {s : Specification} {key : String}
    {group : List PageReference} (h : group ∈ (s.pageGroups? key).getD []) :
    ∃ groups, s.value? key = some (.pageGroups groups) ∧ group ∈ groups := by
  unfold pageGroups? at h
  split at h
  · exact ⟨_, ‹_›, h⟩
  · cases h

namespace Reading

variable {host : Host} {p : Parameter} {spec : Specification} {text : String} {value : Value}

theorem exists_of_mem_mapM {α β : Type} {f : α → Option β} {as : List α} {bs : List β}
    (h : as.mapM f = some bs) : ∀ b ∈ bs, ∃ a ∈ as, f a = some b := by
  induction as generalizing bs with
  | nil =>
    obtain rfl := Option.some.inj h
    simp
  | cons a as ih =>
    rw [List.mapM_cons] at h
    obtain ⟨b, first, h⟩ := Option.bind_eq_some_iff.mp h
    obtain ⟨bs', rest, h⟩ := Option.bind_eq_some_iff.mp h
    obtain rfl := Option.some.inj h
    intro c member
    rcases List.mem_cons.mp member with rfl | member
    · exact ⟨a, List.mem_cons_self, first⟩
    · obtain ⟨a', member, read⟩ := ih rest c member
      exact ⟨a', List.mem_cons_of_mem a member, read⟩

theorem exists_mem_of_mapM {α β : Type} {f : α → Option β} {as : List α} {bs : List β}
    (h : as.mapM f = some bs) : ∀ a ∈ as, ∃ b ∈ bs, f a = some b := by
  induction as generalizing bs with
  | nil => simp
  | cons first as ih =>
    rw [List.mapM_cons] at h
    obtain ⟨b, head, h⟩ := Option.bind_eq_some_iff.mp h
    obtain ⟨bs', rest, h⟩ := Option.bind_eq_some_iff.mp h
    obtain rfl := Option.some.inj h
    intro a member
    rcases List.mem_cons.mp member with rfl | later
    · exact ⟨b, List.mem_cons_self, head⟩
    · obtain ⟨c, found, read⟩ := ih rest a later
      exact ⟨c, List.mem_cons_of_mem b found, read⟩

/-- The pages of a list are such as it may hold. -/
theorem admits_pageList? {kind : PageNames} {pages : List PageReference}
    (h : pageList? host kind text = some pages) : ∀ page ∈ pages, kind.Admits host page := by
  intro page member
  cases kind with
  | titles =>
    obtain ⟨name, -, read⟩ := exists_of_mem_mapM h page member
    obtain ⟨title, resolved, rfl⟩ := Option.map_eq_some_iff.mp read
    exact ⟨name, title, resolved, rfl⟩
  | anyNames =>
    obtain rfl := Option.some.inj h
    obtain ⟨name, -, rfl⟩ := List.mem_map.mp member
    exact ⟨name, rfl⟩

/-- A text for which values are named, and which is kept as it is compared, is one of these. -/
theorem chosen_staged? {words : List String} (named : p.values = some words)
    (textual : p.commonKind = .text)
    (plain : p.isTimestamp = false ∧ p.isKey = false ∧ p.preservesCase = false ∧
      p.stripsHtml = false)
    (h : staged? host p spec text = some value) : ∃ word ∈ words, value = .text word := by
  obtain ⟨untimed, free, folded, tagged⟩ := plain
  obtain ⟨allowed, form⟩ := stagedAs_of_staged? h
  have kind := (kind_staged? h).trans textual
  cases form with
  | plain other unlisted _ kept =>
    refine ⟨Text.lower text, by simpa [Parameter.allows, named] using allowed, ?_⟩
    simp [kept untimed, free, prepared, folded, tagged, unlisted]
  | _ => cases kind

end Reading

namespace Engine

variable {e : Engine}

theorem upholds_chosen (chooses : e.registry.Chooses) : e.Upholds e.registry.Chosen where
  seeds := by
    intro p member value seeded q found common words named
    obtain rfl := Option.some.inj ((Registry.find?_of_mem member).symm.trans found)
    exact chooses.seeds p member common words named value seeded
  changes := by
    intro p member spec _ _ text change taken w written q found common words named
    have bound : q.values.isSome = true := by rw [named]; rfl
    have touched := (Reading.writes_change? change taken).writes w written
    -- The key has one writer only: the parameter of its name.
    obtain rfl := chooses.writers p member w.1 touched q found common bound
    obtain ⟨textual, plain⟩ := chooses.common q member common bound
    simp only [Reading.change?, common] at taken
    obtain ⟨value, staged, rfl⟩ := Option.map_eq_some_iff.mp taken
    obtain rfl := List.mem_singleton.mp written
    exact Reading.chosen_staged? named textual plain staged

theorem upholds_paged (chooses : e.registry.Chooses) : e.Upholds (e.registry.Paged e.host) where
  seeds := by
    intro p member value seeded groups paged
    exact absurd (congrArg Value.kind paged) (chooses.unpaged p member value seeded)
  changes := by
    intro p member spec _ obeyed text change taken w written groups paged
    cases rules : p.handler with
    | some handler =>
      have entry := Reading.laidOut_change? change taken w written
      rw [Parameter.layout, rules] at entry
      exact absurd (congrArg Value.kind paged) (handler.layout_ne_pageGroups p.name _ entry)
    | none =>
      simp only [Reading.change?, rules] at taken
      obtain ⟨value, staged, rfl⟩ := Option.map_eq_some_iff.mp taken
      obtain rfl := List.mem_singleton.mp written
      cases (Reading.stagedAs_of_staged? staged).2 with
      | @pages kind _ pages _ listed read inhabited =>
        obtain rfl := Value.pageGroups.inj paged
        refine ⟨p, kind, Registry.find?_of_mem member, listed, fun group grouped => ?_⟩
        rcases List.mem_append.mp grouped with old | new
        · -- The groups that were there before are those of the same parameter.
          obtain ⟨before, found, held⟩ := Specification.exists_of_mem_pageGroups old
          obtain ⟨q, kind', known, listed', admitted⟩ := obeyed _ _ found before rfl
          rw [Registry.find?_of_mem member] at known
          obtain rfl := Option.some.inj known
          obtain rfl := Option.some.inj (listed.symm.trans listed')
          exact admitted group held
        · obtain rfl := List.mem_singleton.mp new
          exact ⟨inhabited, Reading.admits_pageList? read⟩
      | _ => cases paged

end Engine

end WikiQuery

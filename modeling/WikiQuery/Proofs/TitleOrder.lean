import WikiQuery.Proofs.Law

/-!
The order of a list of pages. Two parameters say what it is: one names what pages are ordered by, and
an exact title says that there is no order. In a run the last accepted pair of the two counts. Since
all that is said of orders is read before any title, the titles have the last word in a directive.
-/

set_option autoImplicit false

namespace WikiQuery

namespace Pair

variable {pairs : List Pair}

/-- What pages are ordered by, as a pair has it, if it says so. -/
def order? (pair : Pair) : Option (List String) :=
  if pair.1 = "ordermethod" then some (Reading.items ',' (Text.lower pair.2))
  else if pair.1 = "title" then some []
  else none

theorem order?_of_title {pair : Pair} (titled : pair.1 = "title") : pair.order? = some [] := by
  rw [order?, titled, if_neg (by decide), if_pos rfl]

/-- Among pairs in order the titles stand behind all that name an order, so the last word is that
there is none. -/
theorem getLast?_orders_of_title (order : prioritized pairs = pairs)
    (titled : ∃ pair ∈ pairs, pair.1 = "title") :
    (pairs.filterMap order?).getLast? = some [] := by
  obtain ⟨front, priority, split⟩ := prioritized_eq_append pairs
  rw [order] at split
  obtain ⟨pair, member, titled⟩ := titled
  have behind : pair ∈ pairs.filter fun p => !priorityNames.contains p.1 := by
    refine List.mem_filter.mpr ⟨member, ?_⟩
    rw [titled]
    decide
  have claimed : [] ∈ (pairs.filter fun p => !priorityNames.contains p.1).filterMap order? :=
    List.mem_filterMap.mpr ⟨pair, behind, order?_of_title titled⟩
  have only : ∀ methods ∈ (pairs.filter fun p => !priorityNames.contains p.1).filterMap order?,
      methods = [] := by
    intro methods member
    obtain ⟨other, later, gives⟩ := List.mem_filterMap.mp member
    have unnamed : other.1 ≠ "ordermethod" := by
      rintro same
      have later := (List.mem_filter.mp later).2
      rw [same] at later
      exact absurd later (by decide)
    rw [order?, if_neg unnamed, Option.ite_none_right_eq_some] at gives
    exact (Option.some.inj gives.2).symm
  have last := List.getLast?_eq_some_getLast (List.ne_nil_of_mem claimed)
  have empty := only _ (List.getLast_mem (List.ne_nil_of_mem claimed))
  rw [split, List.filterMap_append, List.getLast?_append, last, empty, Option.some_or]

theorem orders_of_no_title (untitled : ∀ pair ∈ pairs, pair.1 ≠ "title") :
    pairs.filterMap order? =
      (pairs.filter fun pair => pair.1 == "ordermethod").map fun pair =>
        Reading.items ',' (Text.lower pair.2) := by
  induction pairs with
  | nil => rfl
  | cons pair pairs ih =>
    have rest := ih fun other later => untitled other (List.mem_cons_of_mem pair later)
    have here := untitled pair List.mem_cons_self
    by_cases named : pair.1 = "ordermethod"
    · have gives : pair.order? = some (Reading.items ',' (Text.lower pair.2)) := if_pos named
      rw [List.filter_cons_of_pos (by simpa using named), List.map_cons, ← rest,
        List.filterMap_cons_some gives]
    · have silent : pair.order? = none := by rw [order?, if_neg named, if_neg here]
      rw [List.filter_cons_of_neg (by simpa using named), ← rest,
        List.filterMap_cons_none silent]

end Pair

namespace Engine

variable {e : Engine} {s : Session} {name text : String} {pairs : List Pair}

/-- Nothing but the two parameters writes what pages are ordered by. -/
private theorem order_writers :
    ∀ p ∈ Registry.standard.parameters,
      (p.name = "ordermethod" → p.handler = some .orderMethod) ∧
      (p.name = "title" → p.handler = some .title) ∧
      ("ordermethod" ∈ p.footprint → p.name = "ordermethod" ∨ p.name = "title") := by
  decide +kernel

theorem order_process (standard : e.registry = .standard)
    (taken : (e.process s name text).2 = none) :
    (e.process s name text).1.spec.value? "ordermethod" =
      ((Pair.order? (name, text)).map Value.list).or (s.spec.value? "ordermethod") := by
  obtain ⟨p, change, found, read, processed⟩ := exists_change_of_answer taken
  obtain ⟨methods, titled, writers⟩ := order_writers p (standard ▸ mem_of_lookup found)
  have same := name_of_lookup found
  have written : (e.process s name text).1.spec.value? "ordermethod" =
      (s.spec.write change.writes).value? "ordermethod" := by
    rw [processed]
    rfl
  rw [Pair.order?]
  by_cases named : name = "ordermethod"
  · rw [Reading.change?, methods (same.trans named)] at read
    simp only [Reading.handled?, Reading.orderMethod, Option.ite_none_right_eq_some,
      Option.some.injEq] at read
    obtain ⟨-, rfl⟩ := read
    rw [written, if_pos named, Specification.value?_write_singleton, if_pos rfl]
    rfl
  · rw [if_neg named]
    by_cases here : name = "title"
    · rw [Reading.change?, titled (same.trans here)] at read
      obtain ⟨title, -, rfl⟩ := Option.map_eq_some_iff.mp read
      rw [written, if_pos here]
      exact s.spec.value?_write_of_mem (by simp) (by simp)
    · have untouched : "ordermethod" ∉ e.footprint name := by
        rw [footprint_of_lookup found]
        exact fun touched => (writers touched).elim (named <| same.symm.trans ·)
          (here <| same.symm.trans ·)
      rw [value?_process_of_not_mem untouched, if_neg here]
      rfl

/-- Pages are ordered by what the last accepted pair says that says anything of it. -/
theorem order_run (standard : e.registry = .standard) (s : Session) (pairs : List Pair) :
    (e.run s pairs).spec.value? "ordermethod" =
      (((e.accepted s pairs).filterMap Pair.order?).getLast?.map Value.list).or
        (s.spec.value? "ordermethod") := by
  induction pairs generalizing s with
  | nil => rfl
  | cons pair pairs ih =>
    rw [run_cons, ih]
    cases answer : (e.process s pair.1 pair.2).2 with
    | none =>
      rw [accepted_cons_of_none answer, order_process standard answer]
      cases gives : pair.order? with
      | none => rw [List.filterMap_cons_none gives, Option.map_none, Option.none_or]
      | some methods =>
        rw [List.filterMap_cons_some gives, List.getLast?_cons]
        cases ((e.accepted _ pairs).filterMap Pair.order?).getLast? <;> rfl
    | some refusal =>
      rw [accepted_cons_of_some answer, value?_process_of_refused answer]

/-- Once a title is accepted there is no order, whatever else is said of it and wherever the pairs
stand. Without a title the last accepted order counts, and pages are ordered by their bare titles if
there is none. -/
theorem runPairs_order (standard : e.registry = .standard) {outcome : Outcome}
    (ran : e.runPairs pairs = .ok outcome) :
    ((∃ pair ∈ e.accepted e.start (Pair.prioritized pairs), pair.1 = "title") →
      outcome.spec.value? "ordermethod" = some (.list [])) ∧
    ((∀ pair ∈ e.accepted e.start (Pair.prioritized pairs), pair.1 ≠ "title") →
      outcome.spec.value? "ordermethod" = some (.list
        (match ((e.accepted e.start (Pair.prioritized pairs)).filter fun pair =>
            pair.1 == "ordermethod").getLast? with
          | some last => Reading.items ',' (Text.lower last.2)
          | none => ["titlewithoutnamespace"]))) := by
  rw [(spec_of_runPairs ran).1, order_run standard]
  refine ⟨fun titled => ?_, fun untitled => ?_⟩
  · have sub := accepted_sublist (e := e) e.start (Pair.prioritized pairs)
    have order := Pair.prioritized_of_sublist sub
    rw [Pair.getLast?_orders_of_title order titled]
    rfl
  · have seeded : (Registry.standard.find? "ordermethod").bind (·.seed?) =
        some (.list ["titlewithoutnamespace"]) := by
      decide +kernel
    rw [Pair.orders_of_no_title untitled, List.getLast?_map, value?_start, standard, seeded]
    cases ((e.accepted e.start (Pair.prioritized pairs)).filter fun pair =>
        pair.1 == "ordermethod").getLast? <;> rfl

theorem runPairs_order_main_page :
    let e : Engine := ⟨.standard, {}, Site.host {}⟩
    let titled := [("title", "Main Page"), ("ordermethod", "size"), ("title", "["),
      ("ordermethod", "user, title"), ("ordermethod", "bogus")]
    let untitled := [("ordermethod", "size"), ("title", "["), ("namespace", "Help"),
      ("ordermethod", "user, title"), ("ordermethod", "bogus")]
    (∃ outcome, e.runPairs titled = .ok outcome ∧
      ("title", "Main Page") ∈ e.accepted e.start (Pair.prioritized titled) ∧
      outcome.spec.value? "ordermethod" = some (.list [])) ∧
    ∃ outcome, e.runPairs untitled = .ok outcome ∧
      (∀ pair ∈ e.accepted e.start (Pair.prioritized untitled), pair.1 ≠ "title") ∧
      outcome.spec.value? "ordermethod" = some (.list ["user", "title"]) := by
  intro e titled untitled
  have known : (e.runPairs titled).isOk = true ∧ (e.runPairs untitled).isOk = true ∧
      e.accepted e.start (Pair.prioritized titled) = [("ordermethod", "size"),
        ("ordermethod", "user, title"), ("title", "Main Page")] ∧
      e.accepted e.start (Pair.prioritized untitled) = [("ordermethod", "size"),
        ("ordermethod", "user, title"), ("namespace", "Help")] ∧
      Reading.items ',' (Text.lower "user, title") = ["user", "title"] := by
    rw [runPairs_of_named (by decide), runPairs_of_named (by decide)]
    decide +kernel
  obtain ⟨fine, fine', pairs, pairs', methods⟩ := known
  obtain ⟨outcome, ran⟩ := exists_outcome_of_isOk fine
  obtain ⟨outcome', ran'⟩ := exists_outcome_of_isOk fine'
  have cleared := (runPairs_order rfl ran).1
  have ordered := (runPairs_order rfl ran').2
  rw [pairs] at cleared ⊢
  rw [pairs'] at ordered ⊢
  have ordered := ordered (by decide)
  refine ⟨⟨outcome, ran, by decide, cleared (by decide)⟩, outcome', ran', by decide, ?_⟩
  rw [ordered, ← methods]
  rfl

end Engine

end WikiQuery

import WikiQuery.Proofs.Law
import WikiQuery.Proofs.Run

/-!
Whether a list may be kept. Two parameters decide: the one that asks for it, and the one that has a part
of the list carried out, after which nothing is kept. The order in which pairs are read leaves both in
their places, so how they stand in the source tells what a directive comes to.
-/

set_option autoImplicit false

namespace WikiQuery

namespace Reading

/-- Whether a text asks for a warning. -/
def asksForWarning (text : String) : Bool :=
  Text.lower (Text.trim text) == "yes+warn"

/-- Whether a list may be kept by a text, if it says so at all. -/
def mayKeep? (text : String) : Option Bool :=
  if asksForWarning text then some true else Text.truth? (Text.lower (Text.trim text))

theorem allowCachedResults_eq (spec : Specification) (text : String) :
    allowCachedResults spec text =
      if (spec.value? "execandexit").isSome then
        some { writes := [("allowcachedresults", .bool false)] }
      else (mayKeep? text).map fun allowed =>
        { writes := ("allowcachedresults", .bool allowed) ::
            if asksForWarning text then [("warncachedresults", .bool true)] else [] } := by
  unfold allowCachedResults mayKeep? asksForWarning
  by_cases warns : Text.lower (Text.trim text) = "yes+warn"
  · simp [warns]
  · simp [warns]

end Reading

open Reading (asksForWarning mayKeep?)

/-- What pairs have said about the keeping of a list: whether a part of it is carried out, whether
it may be kept, and whether a warning is to tell so. -/
structure Keeping where
  executed : Bool := false
  allowed : Bool := false
  warned : Bool := false

namespace Keeping

/-- Whether a text is taken. -/
def takes (k : Keeping) (text : String) : Bool :=
  k.executed || (mayKeep? text).isSome

/-- What is said after a text that asks for the list to be kept. -/
def ask (k : Keeping) (text : String) : Keeping :=
  if k.executed then { k with allowed := false }
  else
    match mayKeep? text with
    | some allowed => { k with allowed, warned := k.warned || asksForWarning text }
    | none => k

/-- What is said after one more pair. -/
def next (k : Keeping) (pair : Pair) : Keeping :=
  if pair.1 = "execandexit" then { k with executed := true }
  else if pair.1 = "allowcachedresults" then k.ask pair.2
  else k

/-- Whether a pair has a say. -/
def concerns (pair : Pair) : Bool :=
  ["execandexit", "allowcachedresults"].contains pair.1

/-- What pairs say. -/
def ofPairs (pairs : List Pair) : Keeping :=
  pairs.foldl next {}

variable {k : Keeping} {pair : Pair} {pairs : List Pair} {text : String}

theorem executed_ask : (k.ask text).executed = k.executed := by
  unfold ask
  split
  · rfl
  · split <;> rfl

theorem allowed_ask (taken : k.takes text = true) :
    (k.ask text).allowed = (!k.executed && (mayKeep? text).getD false) := by
  unfold ask
  cases executed : k.executed with
  | true => rfl
  | false =>
    obtain ⟨allowed, said⟩ : ∃ allowed, mayKeep? text = some allowed := by
      simpa [takes, executed, Option.isSome_iff_exists] using taken
    simp [said]

theorem warned_ask :
    (k.ask text).warned = (k.warned || (!k.executed && asksForWarning text)) := by
  unfold ask
  cases k.executed with
  | true => simp
  | false =>
    -- Whoever asks for a warning is taken.
    cases warns : asksForWarning text with
    | true => simp [mayKeep?, warns]
    | false =>
      simp only [Bool.false_eq_true, if_false, Bool.not_false, Bool.and_false, Bool.or_false]
      split <;> rfl

theorem ask_of_not_takes (refused : k.takes text = false) : k.ask text = k := by
  obtain ⟨kept, silent⟩ := Bool.or_eq_false_iff.mp refused
  have said : mayKeep? text = none := by simpa using silent
  rw [ask, kept, said]
  rfl

theorem next_of_not_concerns (other : concerns pair = false) : k.next pair = k := by
  obtain ⟨one, two⟩ : pair.1 ≠ "execandexit" ∧ pair.1 ≠ "allowcachedresults" := by
    simpa [concerns] using other
  rw [next, if_neg one, if_neg two]

theorem next_execution (k : Keeping) (text : String) :
    k.next ("execandexit", text) = { k with executed := true } :=
  if_pos rfl

theorem next_caching (k : Keeping) (text : String) :
    k.next ("allowcachedresults", text) = k.ask text := by
  rw [next, if_neg (by simp), if_pos rfl]

theorem executed_next : (k.next pair).executed = (k.executed || pair.1 == "execandexit") := by
  unfold next
  split
  · rename_i executes
    simp [executes]
  · rename_i other
    have same : (pair.1 == "execandexit") = false := beq_eq_false_iff_ne.mpr other
    rw [same, Bool.or_false]
    split
    · exact executed_ask
    · rfl

theorem warned_next : (k.next pair).warned =
    (k.warned || (pair.1 == "allowcachedresults" && !k.executed && asksForWarning pair.2)) := by
  unfold next
  split
  · rename_i executes
    simp [executes]
  · split
    · rename_i asks
      simp [warned_ask, asks]
    · rename_i other
      have same : (pair.1 == "allowcachedresults") = false := beq_eq_false_iff_ne.mpr other
      rw [same, Bool.false_and, Bool.false_and, Bool.or_false]

theorem executed_foldl_next (k : Keeping) (pairs : List Pair) :
    (pairs.foldl next k).executed =
      (k.executed || pairs.any fun pair => pair.1 == "execandexit") := by
  induction pairs generalizing k with
  | nil => simp
  | cons pair pairs ih => rw [List.foldl_cons, ih, executed_next, List.any_cons, Bool.or_assoc]

theorem foldl_next_filter (k : Keeping) (pairs : List Pair) :
    (pairs.filter concerns).foldl next k = pairs.foldl next k := by
  induction pairs generalizing k with
  | nil => rfl
  | cons pair pairs ih =>
    cases said : concerns pair with
    | true => rw [List.filter_cons_of_pos said, List.foldl_cons, List.foldl_cons, ih]
    | false =>
      rw [List.filter_cons_of_neg (by simp [said]), List.foldl_cons, next_of_not_concerns said, ih]

/-- What pairs say goes back to those that have a say. -/
theorem ofPairs_congr {others : List Pair} (same : others.filter concerns = pairs.filter concerns) :
    ofPairs others = ofPairs pairs := by
  rw [ofPairs, ← foldl_next_filter, same, foldl_next_filter, ofPairs]

theorem ofPairs_append (before after : List Pair) :
    ofPairs (before ++ after) = after.foldl next (ofPairs before) :=
  List.foldl_append

theorem executed_ofPairs (pairs : List Pair) :
    (ofPairs pairs).executed = true ↔ ∃ pair ∈ pairs, pair.1 = "execandexit" := by
  rw [ofPairs, executed_foldl_next, Bool.false_or, List.any_eq_true]
  simp only [beq_iff_eq]

theorem not_executed_ofPairs (pairs : List Pair) :
    (ofPairs pairs).executed = false ↔ ∀ pair ∈ pairs, pair.1 ≠ "execandexit" := by
  rw [← Bool.not_eq_true, executed_ofPairs]
  simp only [not_exists, not_and, ne_eq]

/-- Refused pairs change nothing about what may be kept. -/
theorem allowed_foldl_next (k : Keeping) (pairs : List Pair)
    (refused : ∀ before text after, pairs = before ++ ("allowcachedresults", text) :: after →
      (before.foldl next k).takes text = false) :
    (pairs.foldl next k).allowed = k.allowed := by
  induction pairs generalizing k with
  | nil => rfl
  | cons pair pairs ih =>
    have rest := ih (k.next pair) fun before text after split =>
      refused (pair :: before) text after (by rw [split, List.cons_append])
    rw [List.foldl_cons, rest, next]
    split
    · rfl
    · split
      · rename_i asks
        have here : k.takes pair.2 = false := refused [] pair.2 pairs (by rw [List.nil_append, ← asks])
        rw [ask_of_not_takes here]
      · rfl

/-- The last text that is taken tells what may be kept. -/
theorem allowed_ofPairs_of_last {before after : List Pair}
    (taken : (ofPairs before).takes text = true)
    (last : ∀ middle other rest, after = middle ++ ("allowcachedresults", other) :: rest →
      (ofPairs (before ++ ("allowcachedresults", text) :: middle)).takes other = false) :
    (ofPairs (before ++ ("allowcachedresults", text) :: after)).allowed =
      (!(ofPairs before).executed && (mayKeep? text).getD false) := by
  have refused : ∀ middle other rest, after = middle ++ ("allowcachedresults", other) :: rest →
      (middle.foldl next ((ofPairs before).ask text)).takes other = false := by
    intro middle other rest split
    have later := last middle other rest split
    rwa [ofPairs_append, List.foldl_cons, next_caching] at later
  rw [ofPairs_append, List.foldl_cons, next_caching, allowed_foldl_next _ after refused,
    allowed_ask taken]

/-- A warning goes back to a pair that asks for it before a part of the list is carried out. -/
theorem warned_foldl_next (k : Keeping) (pairs : List Pair) :
    (pairs.foldl next k).warned = true ↔ k.warned = true ∨
      ∃ before text after, pairs = before ++ ("allowcachedresults", text) :: after ∧
        asksForWarning text = true ∧ (before.foldl next k).executed = false := by
  induction pairs generalizing k with
  | nil => simp
  | cons pair pairs ih =>
    rw [List.foldl_cons, ih, warned_next]
    constructor
    · rintro (warned | ⟨before, text, after, rfl, asks, kept⟩)
      · rcases Bool.or_eq_true_iff.mp warned with old | new
        · exact .inl old
        · simp only [Bool.and_eq_true, beq_iff_eq, Bool.not_eq_true'] at new
          obtain ⟨⟨named, kept⟩, asks⟩ := new
          exact .inr ⟨[], pair.2, pairs, by rw [List.nil_append, ← named], asks, kept⟩
      · exact .inr ⟨pair :: before, text, after, rfl, asks, kept⟩
    · rintro (old | ⟨before, text, after, split, asks, kept⟩)
      · exact .inl (by rw [old, Bool.true_or])
      · cases before with
        | nil =>
          obtain ⟨rfl, rfl⟩ := List.cons.inj split
          replace kept : k.executed = false := kept
          exact .inl (by simp [kept, asks])
        | cons first before =>
          obtain ⟨rfl, rfl⟩ := List.cons.inj split
          exact .inr ⟨before, text, after, rfl, asks, kept⟩

/-- The keys of the values that go back to what is said. -/
def keys : List String :=
  ["execandexit", "allowcachedresults", "warncachedresults"]

/-- A query stands on the keeping of its list as is said. -/
structure Holds (k : Keeping) (spec : Specification) : Prop where
  executed : (spec.value? "execandexit").isSome = k.executed
  allowed : spec.value? "allowcachedresults" = some (.bool k.allowed)
  warned : spec.value? "warncachedresults" = if k.warned then some (.bool true) else none

variable {spec : Specification}

theorem Holds.congr {other : Specification} (h : k.Holds spec)
    (same : ∀ key ∈ keys, other.value? key = spec.value? key) : k.Holds other where
  executed := (congrArg Option.isSome (same _ (by simp [keys]))).trans h.executed
  allowed := (same _ (by simp [keys])).trans h.allowed
  warned := (same _ (by simp [keys])).trans h.warned

theorem Holds.execute (h : k.Holds spec) (value : Value) :
    Holds { k with executed := true } (spec.write [("execandexit", value)]) where
  executed := by
    rw [Specification.value?_write_singleton, if_pos rfl]
    rfl
  allowed := by
    rw [Specification.value?_write_singleton, if_neg (by simp)]
    exact h.allowed
  warned := by
    rw [Specification.value?_write_singleton, if_neg (by simp)]
    exact h.warned

theorem Holds.allow (h : k.Holds spec) (allowed : Bool) :
    Holds { k with allowed } (spec.write [("allowcachedresults", .bool allowed)]) where
  executed := by
    rw [Specification.value?_write_singleton, if_neg (by simp)]
    exact h.executed
  allowed := by rw [Specification.value?_write_singleton, if_pos rfl]
  warned := by
    rw [Specification.value?_write_singleton, if_neg (by simp)]
    exact h.warned

theorem Holds.warn (h : k.Holds spec) :
    Holds { k with warned := true } (spec.write [("warncachedresults", .bool true)]) where
  executed := by
    rw [Specification.value?_write_singleton, if_neg (by simp)]
    exact h.executed
  allowed := by
    rw [Specification.value?_write_singleton, if_neg (by simp)]
    exact h.allowed
  warned := by
    rw [Specification.value?_write_singleton, if_pos rfl]
    rfl

/-- What a text that asks for the list to be kept writes is what is said after it. -/
theorem Holds.ask {change : Change} (h : k.Holds spec)
    (taken : Reading.allowCachedResults spec text = some change) :
    (k.ask text).Holds (spec.write change.writes) := by
  rw [Reading.allowCachedResults_eq, h.executed] at taken
  unfold Keeping.ask
  by_cases executed : k.executed = true
  · rw [if_pos executed] at taken ⊢
    obtain rfl := Option.some.inj taken
    exact h.allow false
  · rw [if_neg executed] at taken ⊢
    obtain ⟨allowed, said, rfl⟩ := Option.map_eq_some_iff.mp taken
    rw [said]
    cases warns : asksForWarning text with
    | true =>
      rw [Bool.or_true]
      exact (h.allow allowed).warn
    | false =>
      rw [Bool.or_false]
      exact h.allow allowed

/-- A text that asks for the list to be kept is taken if what was said lets it. -/
theorem Holds.isSome_allowCachedResults (h : k.Holds spec) (text : String) :
    (Reading.allowCachedResults spec text).isSome = k.takes text := by
  rw [Reading.allowCachedResults_eq, h.executed, takes]
  cases k.executed with
  | true => rfl
  | false => simp

end Keeping

namespace Engine

variable {e : Engine} {s : Session} {k : Keeping} {pair : Pair} {pairs : List Pair} {text : String}

theorem lookup_execution (standard : e.registry = .standard) (rich : 1 ≤ e.settings.richness) :
    e.lookup "execandexit" =
      .ok { name := "execandexit", richness := 1, preservesCase := true, stripsHtml := true } := by
  have known : Registry.standard.find? "execandexit" =
      some { name := "execandexit", richness := 1, preservesCase := true, stripsHtml := true } := by
    decide +kernel
  rw [lookup_eq_ok_iff, standard]
  exact ⟨by decide, known, rich, by simp⟩

theorem lookup_caching (standard : e.registry = .standard) (rich : 1 ≤ e.settings.richness) :
    ∃ p, e.lookup "allowcachedresults" = .ok p ∧ ∀ spec text,
      Reading.change? e.settings e.host p spec text = Reading.allowCachedResults spec text := by
  have known : ∃ p, Registry.standard.find? "allowcachedresults" = some p ∧
      p.handler = some .allowCachedResults ∧ p.richness = 1 ∧ p.permission = none :=
    ⟨_, rfl, rfl, rfl, rfl⟩
  obtain ⟨p, found, rules, level, free⟩ := known
  exact ⟨p, lookup_of_handler (by decide) (standard ▸ found) rules (level ▸ rich) free⟩

/-- No other parameter touches what is said. -/
theorem key_not_mem_footprint (standard : e.registry = .standard)
    (silent : Keeping.concerns pair = false) : ∀ key ∈ Keeping.keys, key ∉ e.footprint pair.1 := by
  have writers : ∀ p ∈ Registry.standard.parameters, ∀ key ∈ Keeping.keys, key ∈ p.footprint →
      ["execandexit", "allowcachedresults"].contains p.name = true := by
    decide +kernel
  intro key member touched
  obtain ⟨p, known, named, touched⟩ := exists_of_mem_footprint touched
  have loud := writers p (standard ▸ known) key member touched
  rw [named] at loud
  exact Bool.false_ne_true (silent.symm.trans loud)

theorem holds_start (standard : e.registry = .standard) : Keeping.Holds {} e.start.spec := by
  have seeds : (Registry.standard.find? "execandexit").bind (·.seed?) = none ∧
      (Registry.standard.find? "allowcachedresults").bind (·.seed?) = some (.bool false) ∧
      (Registry.standard.find? "warncachedresults").bind (·.seed?) = none := by
    decide +kernel
  refine ⟨?_, ?_, ?_⟩ <;> rw [value?_start, standard]
  · rw [seeds.1]
    rfl
  · exact seeds.2.1
  · exact seeds.2.2

theorem isNone_answer_iff (standard : e.registry = .standard) (rich : 1 ≤ e.settings.richness)
    (h : k.Holds s.spec) :
    (e.process s "allowcachedresults" text).2 = none ↔ k.takes text = true := by
  obtain ⟨p, found, reads⟩ := lookup_caching standard rich
  rw [answer_process found, reads, ← h.isSome_allowCachedResults text]
  cases Reading.allowCachedResults s.spec text <;> simp

/-- What is said goes from pair to pair as the query does. -/
theorem holds_process (standard : e.registry = .standard) (rich : 1 ≤ e.settings.richness)
    (h : k.Holds s.spec) (pair : Pair) :
    (k.next pair).Holds (e.process s pair.1 pair.2).1.spec := by
  cases said : Keeping.concerns pair with
  | false =>
    rw [Keeping.next_of_not_concerns said]
    have apart := key_not_mem_footprint standard said
    exact h.congr fun key member => value?_process_of_not_mem (apart key member)
  | true =>
    obtain ⟨name, text⟩ := pair
    obtain rfl | rfl : name = "execandexit" ∨ name = "allowcachedresults" := by
      simpa [Keeping.concerns] using said
    · have reads : Reading.change? e.settings e.host
          { name := "execandexit", richness := 1, preservesCase := true, stripsHtml := true } s.spec
          text = some { writes := [("execandexit", .text (Text.stripHtmlTags text))] } := rfl
      rw [Keeping.next_execution, process_of_accepted (lookup_execution standard rich) reads]
      exact (h.execute _).congr fun _ _ => rfl
    · obtain ⟨p, found, reads⟩ := lookup_caching standard rich
      rw [Keeping.next_caching]
      cases read : Reading.allowCachedResults s.spec text with
      | some change =>
        rw [process_of_accepted found ((reads s.spec text).trans read)]
        exact (h.ask read).congr fun _ _ => rfl
      | none =>
        have refused := h.isSome_allowCachedResults text
        rw [read] at refused
        rw [process_of_refused found ((reads s.spec text).trans read),
          Keeping.ask_of_not_takes refused.symm]
        exact h.congr fun _ _ => rfl

theorem holds_run (standard : e.registry = .standard) (rich : 1 ≤ e.settings.richness)
    (h : k.Holds s.spec) (pairs : List Pair) :
    (pairs.foldl Keeping.next k).Holds (e.run s pairs).spec := by
  induction pairs generalizing s k with
  | nil => exact h
  | cons pair pairs ih => exact ih (holds_process standard rich h pair)

/-- A pair that stands between others is accepted when it is read. It has no priority, so what is
read after it are those pairs of no priority that stand behind it. -/
structure Takes (e : Engine) (pairs before : List Pair) (pair : Pair) (after : List Pair) : Prop where
  split : pairs = before ++ pair :: after
  accepted : ∃ earlier,
    Pair.prioritized pairs =
      earlier ++ pair :: after.filter (fun p => !Pair.priorityNames.contains p.1) ∧
    (e.process (e.run e.start earlier) pair.1 pair.2).2 = none

theorem not_mem_priorityNames (said : Keeping.concerns pair = true) :
    pair.1 ∉ Pair.priorityNames := by
  have apart : ∀ name ∈ ["execandexit", "allowcachedresults"], name ∉ Pair.priorityNames := by decide
  exact apart pair.1 (List.contains_iff_mem.mp said)

/-- What is read before a pair says the same as what stands before it. -/
theorem ofPairs_earlier {earlier before after : List Pair} (said : Keeping.concerns pair = true)
    (order : Pair.prioritized (before ++ pair :: after) =
      earlier ++ pair :: after.filter fun p => !Pair.priorityNames.contains p.1) :
    Keeping.ofPairs earlier = Keeping.ofPairs before := by
  have other : ∀ p, Keeping.concerns p = true → p.1 ∉ Pair.priorityNames :=
    fun _ => not_mem_priorityNames
  have kept := Pair.filter_prioritized other (before ++ pair :: after)
  rw [order, List.filter_append, List.filter_append, List.filter_cons_of_pos said,
    List.filter_cons_of_pos said, Pair.filter_filter_of_not_mem other] at kept
  exact Keeping.ofPairs_congr (List.append_cancel_right kept)

theorem takes_iff (standard : e.registry = .standard) (rich : 1 ≤ e.settings.richness)
    {before after : List Pair} :
    e.Takes pairs before ("allowcachedresults", text) after ↔
      pairs = before ++ ("allowcachedresults", text) :: after ∧
        (Keeping.ofPairs before).takes text = true := by
  have said : Keeping.concerns ("allowcachedresults", text) = true := rfl
  have answer : ∀ earlier, Keeping.ofPairs earlier = Keeping.ofPairs before →
      ((e.process (e.run e.start earlier) "allowcachedresults" text).2 = none ↔
        (Keeping.ofPairs before).takes text = true) := by
    intro earlier same
    exact isNone_answer_iff standard rich (same ▸ holds_run standard rich (holds_start standard) earlier)
  constructor
  · rintro ⟨rfl, earlier, order, accepted⟩
    exact ⟨rfl, (answer earlier (ofPairs_earlier said order)).mp accepted⟩
  · rintro ⟨rfl, taken⟩
    obtain ⟨earlier, order⟩ :=
      Pair.exists_prioritized_eq_append (not_mem_priorityNames said) before after
    exact ⟨rfl, earlier, order, (answer earlier (ofPairs_earlier said order)).mpr taken⟩

theorem holds_runPairs (standard : e.registry = .standard) (rich : 1 ≤ e.settings.richness)
    {outcome : Outcome} (ran : e.runPairs pairs = .ok outcome) :
    (Keeping.ofPairs pairs).Holds outcome.spec := by
  have same := Pair.filter_prioritized (fun _ => not_mem_priorityNames) pairs
  rw [(spec_of_runPairs ran).1, ← Keeping.ofPairs_congr same]
  exact holds_run standard rich (holds_start standard) _

/-- Whether the list of an accepted directive may be kept is told by the last pair that was accepted for
it: not if a part of the list is carried out before it, and else as its text says. Without such a pair
it may not. A warning is given if a pair asks for it before a part of the list is carried out. Nothing
depends on any other pair. -/
theorem runPairs_cachedResults (standard : e.registry = .standard) (rich : 1 ≤ e.settings.richness)
    {outcome : Outcome} (ran : e.runPairs pairs = .ok outcome) :
    ((∀ before text after, ¬e.Takes pairs before ("allowcachedresults", text) after) →
      outcome.spec.value? "allowcachedresults" = some (.bool false)) ∧
    (∀ before text after, e.Takes pairs before ("allowcachedresults", text) after →
      (∀ before' text' after', e.Takes pairs before' ("allowcachedresults", text') after' →
        before'.length ≤ before.length) →
      ((∃ pair ∈ before, pair.1 = "execandexit") →
        outcome.spec.value? "allowcachedresults" = some (.bool false)) ∧
      ((∀ pair ∈ before, pair.1 ≠ "execandexit") → ∃ allowed, mayKeep? text = some allowed ∧
        outcome.spec.value? "allowcachedresults" = some (.bool allowed))) ∧
    (outcome.spec.value? "warncachedresults" = some (.bool true) ↔
      ∃ before text after, pairs = before ++ ("allowcachedresults", text) :: after ∧
        Text.lower (Text.trim text) = "yes+warn" ∧ ∀ pair ∈ before, pair.1 ≠ "execandexit") ∧
    ∀ others outcome', e.runPairs others = .ok outcome' →
      others.filter (fun pair => ["execandexit", "allowcachedresults"].contains pair.1) =
        pairs.filter (fun pair => ["execandexit", "allowcachedresults"].contains pair.1) →
      ∀ key ∈ ["allowcachedresults", "warncachedresults"],
        outcome'.spec.value? key = outcome.spec.value? key := by
  have holds := holds_runPairs standard rich ran
  refine ⟨fun none => ?_, fun before text after takes last => ?_, ?_, ?_⟩
  · have refused : ∀ before text after, pairs = before ++ ("allowcachedresults", text) :: after →
        (Keeping.ofPairs before).takes text = false := by
      intro before text after split
      have contrary := mt (takes_iff standard rich).mpr (none before text after)
      exact Bool.eq_false_iff.mpr fun taken => contrary ⟨split, taken⟩
    rw [holds.allowed, Keeping.ofPairs, Keeping.allowed_foldl_next {} pairs refused]
  · obtain ⟨rfl, taken⟩ := (takes_iff standard rich).mp takes
    have refused : ∀ middle other rest, after = middle ++ ("allowcachedresults", other) :: rest →
        (Keeping.ofPairs (before ++ ("allowcachedresults", text) :: middle)).takes other = false := by
      intro middle other rest split
      refine Bool.eq_false_iff.mpr fun later => ?_
      have bound := last _ _ rest ((takes_iff standard rich).mpr ⟨by simp [split], later⟩)
      simp only [List.length_append, List.length_cons] at bound
      omega
    rw [holds.allowed, Keeping.allowed_ofPairs_of_last taken refused]
    refine ⟨fun executed => ?_, fun kept => ?_⟩
    · rw [(Keeping.executed_ofPairs before).mpr executed]
      rfl
    · replace kept := (Keeping.not_executed_ofPairs before).mpr kept
      rw [Keeping.takes, kept, Bool.false_or, Option.isSome_iff_exists] at taken
      obtain ⟨allowed, said⟩ := taken
      exact ⟨allowed, said, by rw [kept, said]; rfl⟩
  · have warned : outcome.spec.value? "warncachedresults" = some (.bool true) ↔
        (Keeping.ofPairs pairs).warned = true := by
      rw [holds.warned]
      split <;> simp [*]
    rw [warned, Keeping.ofPairs, Keeping.warned_foldl_next]
    simp only [Bool.false_eq_true, false_or, asksForWarning, beq_iff_eq,
      ← Keeping.not_executed_ofPairs, Keeping.ofPairs]
  · intro others outcome' ran' same key member
    have holds' := holds_runPairs standard rich ran'
    rw [Keeping.ofPairs_congr same] at holds'
    rcases List.mem_cons.mp member with rfl | member
    · rw [holds.allowed, holds'.allowed]
    · obtain rfl := List.mem_singleton.mp member
      rw [holds.warned, holds'.warned]

theorem runPairs_cachedResults_execution :
    let e : Engine := ⟨.standard, {}, Site.host {}⟩
    let before := [("category", "Animals"), ("allowcachedresults", " Yes+Warn "),
      ("execandexit", "Nothing here")]
    let pairs := before ++ [("allowcachedresults", "bogus")]
    1 ≤ e.settings.richness ∧ e.Takes pairs before ("allowcachedresults", "bogus") [] ∧
      ∃ outcome, e.runPairs pairs = .ok outcome ∧
        outcome.spec.value? "allowcachedresults" = some (.bool false) ∧
        outcome.spec.value? "warncachedresults" = some (.bool true) ∧
        ∃ outcome', e.runPairs (("mode", "none") :: pairs) = .ok outcome' ∧
          outcome'.spec.value? "warncachedresults" = some (.bool true) := by
  intro e before pairs
  have rich : 1 ≤ e.settings.richness := by decide
  obtain ⟨outcome, ran⟩ : ∃ outcome, e.runPairs pairs = .ok outcome :=
    exists_outcome_of_isOk (by decide +kernel)
  obtain ⟨outcome', ran'⟩ : ∃ outcome, e.runPairs (("mode", "none") :: pairs) = .ok outcome :=
    exists_outcome_of_isOk (by decide +kernel)
  have takes : e.Takes pairs before ("allowcachedresults", "bogus") [] :=
    ⟨rfl, before, by decide +kernel, by decide +kernel⟩
  have last : ∀ before' text' after', e.Takes pairs before' ("allowcachedresults", text') after' →
      before'.length ≤ before.length := by
    intro before' text' after' found
    have length : 4 = (before' ++ ("allowcachedresults", text') :: after').length :=
      congrArg List.length found.split
    rw [List.length_append, List.length_cons] at length
    change before'.length ≤ 3
    omega
  obtain ⟨-, told, warned, alone⟩ := runPairs_cachedResults rfl rich ran
  have kept := (told before "bogus" [] takes last).1 ⟨("execandexit", "Nothing here"), by decide, rfl⟩
  have warns := warned.mpr ⟨[("category", "Animals")], " Yes+Warn ", _, rfl, by decide +kernel,
    by decide⟩
  have same := alone _ outcome' ran' (by decide) "warncachedresults" (by decide)
  exact ⟨rich, takes, outcome, ran, kept, warns, outcome', ran', same.trans warns⟩

end Engine

end WikiQuery

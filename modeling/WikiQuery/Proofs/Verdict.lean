import WikiQuery.Proofs.Acceptance
import WikiQuery.Proofs.CategoryCount
import WikiQuery.Proofs.Run

/-!
The judgement of a directive as a whole. It rests on a tally of what its pairs bring, and each pair
brings the same to every query, so the order of the lines of a directive does not matter to it.
-/

set_option autoImplicit false

namespace WikiQuery

/-- What a query is judged by, beside its listing of references. -/
structure Tally where
  selects : Bool
  conflicts : Bool
  categories : Nat
  given : Std.ExtTreeSet String

namespace Tally

theorem ext {a b : Tally} (selects : a.selects = b.selects) (conflicts : a.conflicts = b.conflicts)
    (categories : a.categories = b.categories) (given : ∀ name, name ∈ a.given ↔ name ∈ b.given) :
    a = b := by
  have same : a.given = b.given := Std.ExtTreeSet.ext_mem given
  cases a
  cases b
  simp_all

/-- What two parts bring together. -/
def add (a b : Tally) : Tally where
  selects := a.selects || b.selects
  conflicts := a.conflicts || b.conflicts
  categories := a.categories + b.categories
  given := a.given ∪ b.given

theorem add_right_comm (a b c : Tally) : (a.add b).add c = (a.add c).add b := by
  refine ext ?_ ?_ ?_ fun name => ?_
  · exact Bool.or_right_comm _ _ _
  · exact Bool.or_right_comm _ _ _
  · exact Nat.add_right_comm _ _ _
  · simp only [add, Std.ExtTreeSet.mem_union_iff]
    exact or_right_comm

end Tally

/-- The tally of a query. -/
def Session.tally (s : Session) : Tally where
  selects := s.spec.selectionCriteriaFound
  conflicts := s.spec.openReferencesConflict
  categories := s.spec.totalCategoryCount
  given := s.spec.processed

/-- What has to hold of the parameters of a table so that their order does not matter: the rules for
kept lists bring nothing, the values that are counted are left to the rules that choose by category,
and the listing of references is left to one parameter. -/
structure Registry.OrderFree (r : Registry) : Prop where
  kept : ∀ p ∈ r.parameters, p.handler = some .allowCachedResults →
    p.name = "allowcachedresults" ∧ p.selects = false ∧ p.conflicts = false
  counted : ∀ p ∈ r.parameters, "category" ∈ p.footprint ∨ "notcategory" ∈ p.footprint →
    p.handler.any Handler.countsCategories = true
  listing : ∀ p ∈ r.parameters, "openreferences" ∈ p.footprint →
    p.name = "openreferences" ∧ p.footprint = ["openreferences"]

theorem Registry.orderFree_standard : Registry.standard.OrderFree where
  kept := by decide +kernel
  counted := by decide +kernel
  listing := by decide +kernel

namespace Engine

variable {e : Engine} {s t : Session} {name text : String} {p : Parameter} {pairs other : List Pair}

/-- What a pair brings to a query. -/
def contribution (e : Engine) (pair : Pair) : Tally :=
  (e.process ⟨{}, none⟩ pair.1 pair.2).1.tally

private theorem selects_change? (free : e.registry.OrderFree) (found : e.lookup name = .ok p)
    (spec spec' : Specification) (text : String) :
    ((Reading.change? e.settings e.host p spec text).isSome && p.selects) =
      ((Reading.change? e.settings e.host p spec' text).isSome && p.selects) := by
  by_cases kept : p.handler = some .allowCachedResults
  · rw [(free.kept p (mem_of_lookup found) kept).2.1, Bool.and_false, Bool.and_false]
  · rw [Reading.isSome_eq_of_verdict (Reading.verdict_change? kept)]

private theorem conflicts_change? (free : e.registry.OrderFree) (found : e.lookup name = .ok p)
    (spec spec' : Specification) (text : String) :
    ((Reading.change? e.settings e.host p spec text).any
        fun change => change.conflicts || p.conflicts) =
      (Reading.change? e.settings e.host p spec' text).any
        fun change => change.conflicts || p.conflicts := by
  by_cases kept : p.handler = some .allowCachedResults
  · have none : ∀ spec, ((Reading.change? e.settings e.host p spec text).any
        fun change => change.conflicts || p.conflicts) = false := by
      intro spec
      cases taken : Reading.change? e.settings e.host p spec text with
      | none => rfl
      | some change =>
        rw [Option.any_some, Reading.conflicts_allowCachedResults kept taken,
          (free.kept p (mem_of_lookup found) kept).2.2, Bool.or_false]
    rw [none, none]
  · exact Reading.any_eq_of_verdict _ (Reading.verdict_change? kept)

private theorem value?_process_of_lookup (found : e.lookup name = .ok p) (key : String) :
    (e.process s name text).1.spec.value? key =
      (s.spec.written (Reading.change? e.settings e.host p s.spec text)).value? key := by
  cases taken : Reading.change? e.settings e.host p s.spec text with
  | none => rw [process_of_refused found taken]; rfl
  | some change => rw [process_of_accepted found taken]; rfl

/-- A pair brings the same to every query. -/
theorem tally_process (free : e.registry.OrderFree) (s : Session) (pair : Pair) :
    (e.process s pair.1 pair.2).1.tally = s.tally.add (e.contribution pair) := by
  cases found : e.lookup pair.1 with
  | error refusal =>
    simp only [contribution, process_of_lookup_error found]
    refine Tally.ext (Bool.or_false _).symm (Bool.or_false _).symm rfl fun name => ?_
    simp [Session.tally, Tally.add]
  | ok p =>
    refine Tally.ext ?_ ?_ ?_ fun name => ?_
    · simp only [contribution, Session.tally, Tally.add, selectionCriteriaFound_process found,
        Bool.false_or]
      rw [selects_change? free found s.spec {}]
    · simp only [contribution, Session.tally, Tally.add, openReferencesConflict_process found,
        Bool.false_or]
      rw [conflicts_change? free found s.spec {}]
    · -- The gain is the same for all queries, so it shows at the empty one.
      obtain ⟨n, gain⟩ := Reading.exists_gain e.settings e.host pair.2
        (free.counted p (mem_of_lookup found))
      have total : ∀ s, (e.process s pair.1 pair.2).1.spec.totalCategoryCount =
          s.spec.totalCategoryCount + n := by
        intro s
        rw [← gain]
        exact Specification.totalCategoryCount_congr (value?_process_of_lookup found _)
          (value?_process_of_lookup found _)
      have bare : (⟨{}, none⟩ : Session).spec.totalCategoryCount = 0 := rfl
      simp only [contribution, Session.tally, Tally.add, total, bare, Nat.zero_add]
    · simp only [contribution, Session.tally, Tally.add, processed_process found,
        Std.ExtTreeSet.mem_union_iff, Std.ExtTreeSet.mem_insert]
      simp [or_comm]

theorem tally_run (free : e.registry.OrderFree) (s : Session) (pairs : List Pair) :
    (e.run s pairs).tally =
      pairs.foldl (fun tally pair => tally.add (e.contribution pair)) s.tally := by
  induction pairs generalizing s with
  | nil => rfl
  | cons pair pairs ih => rw [run_cons, ih, tally_process free, List.foldl_cons]

theorem tally_run_perm (free : e.registry.OrderFree) (s : Session) (perm : pairs.Perm other) :
    (e.run s pairs).tally = (e.run s other).tally := by
  rw [tally_run free, tally_run free]
  exact perm.foldl_eq' (fun _ _ _ _ tally => tally.add_right_comm _ _) _

/-- Whether a pair is refused, and why, is the same for every query, but for kept lists. -/
theorem answer_eq (free : e.registry.OrderFree) (named : name ≠ "allowcachedresults")
    (s t : Session) (text : String) :
    (e.process s name text).2 = (e.process t name text).2 := by
  cases found : e.lookup name with
  | error refusal => rw [process_of_lookup_error found, process_of_lookup_error found]
  | ok p =>
    have common : p.handler ≠ some .allowCachedResults := by
      intro kept
      exact named ((name_of_lookup found).symm.trans (free.kept p (mem_of_lookup found) kept).1)
    rw [answer_process found, answer_process found,
      Reading.isSome_eq_of_verdict (Reading.verdict_change? common)]

/-- The refusal of a pair by a query that holds nothing yet, unless the pair is about kept lists. -/
private def ordinaryRefusal? (e : Engine) (pair : Pair) : Option (Pair × ParameterError) :=
  if pair.1 == "allowcachedresults" then none
  else (e.process ⟨{}, none⟩ pair.1 pair.2).2.map fun refusal => (pair, refusal)

private theorem filter_refused (free : e.registry.OrderFree) (s : Session) (pairs : List Pair) :
    ((e.refused s pairs).filter fun r => r.1.1 != "allowcachedresults") =
      pairs.filterMap e.ordinaryRefusal? := by
  induction pairs generalizing s with
  | nil => rfl
  | cons pair pairs ih =>
    rw [List.filterMap_cons, ← ih (e.process s pair.1 pair.2).1]
    cases answer : (e.process s pair.1 pair.2).2 with
    | none =>
      rw [refused_cons_of_none answer]
      by_cases kept : pair.1 = "allowcachedresults"
      · simp [ordinaryRefusal?, kept]
      · rw [answer_eq free kept s ⟨{}, none⟩] at answer
        simp [ordinaryRefusal?, kept, answer]
    | some refusal =>
      rw [refused_cons_of_some answer]
      by_cases kept : pair.1 = "allowcachedresults"
      · simp [ordinaryRefusal?, kept]
      · rw [answer_eq free kept s ⟨{}, none⟩] at answer
        simp [ordinaryRefusal?, kept, answer]

theorem refused_perm (free : e.registry.OrderFree) (s : Session) (perm : pairs.Perm other) :
    ((e.refused s pairs).filter fun r => r.1.1 != "allowcachedresults").Perm
      ((e.refused s other).filter fun r => r.1.1 != "allowcachedresults") := by
  rw [filter_refused free, filter_refused free]
  exact perm.filterMap _

private theorem isOk_processAll_iff (s : Session) (pairs : List Pair) :
    (e.processAll s pairs).isOk = true ↔ ∀ pair ∈ pairs, e.ending? pair.1 = none := by
  rw [processAll_eq, findSome?_refused, ← List.findSome?_eq_none_iff]
  cases pairs.findSome? fun pair => e.ending? pair.1 with
  | some error => simp [Except.isOk, Except.toBool]
  | none => simp [Except.isOk, Except.toBool]

/-- Pairs end a directive in every order or in none. -/
theorem isOk_processAll_perm (s t : Session) (perm : pairs.Perm other) :
    (e.processAll s pairs).isOk = (e.processAll t other).isOk := by
  rw [Bool.eq_iff_iff, isOk_processAll_iff, isOk_processAll_iff]
  simp only [perm.mem_iff]

private theorem footprint_listing (free : e.registry.OrderFree)
    (h : "openreferences" ∈ e.footprint name) :
    name = "openreferences" ∧ e.footprint name = ["openreferences"] := by
  unfold footprint at h ⊢
  cases found : e.registry.find? name with
  | none => simp [found] at h
  | some p =>
    rw [found] at h
    obtain ⟨named, alone⟩ := free.listing p (Registry.mem_of_find? found) h
    exact ⟨(Registry.name_of_find? found).symm.trans named, alone⟩

/-- Only the pairs that list references have an influence on the listing of references. -/
theorem value?_run_listing (free : e.registry.OrderFree)
    (same : s.spec.value? "openreferences" = t.spec.value? "openreferences") (pairs : List Pair) :
    (e.run s pairs).spec.value? "openreferences" =
      (e.run t (pairs.filter fun p => p.1 == "openreferences")).spec.value? "openreferences" := by
  induction pairs generalizing s t with
  | nil => exact same
  | cons pair pairs ih =>
    rw [run_cons]
    by_cases listing : pair.1 = "openreferences"
    · rw [List.filter_cons_of_pos (by simp [listing]), run_cons]
      refine ih ?_
      by_cases touched : "openreferences" ∈ e.footprint pair.1
      · refine value?_process_congr (fun key member => ?_) touched
        rw [(footprint_listing free touched).2, List.mem_singleton] at member
        rw [member, same]
      · rw [value?_process_of_not_mem touched, value?_process_of_not_mem touched, same]
    · rw [List.filter_cons_of_neg (by simp [listing])]
      refine ih ?_
      rw [value?_process_of_not_mem fun touched => listing (footprint_listing free touched).1, same]

private theorem eq_of_perm_of_length_le_one {α : Type} {a b : List α} (perm : a.Perm b)
    (short : a.length ≤ 1) : a = b := by
  match a, short with
  | [], _ => exact (List.nil_perm.mp perm).symm
  | [x], _ => exact List.singleton_perm.mp perm

theorem openReferences_run_perm (free : e.registry.OrderFree) (s : Session)
    (perm : pairs.Perm other) (short : pairs.countP (·.1 == "openreferences") ≤ 1) :
    (e.run s pairs).spec.openReferences = (e.run s other).spec.openReferences := by
  -- A list of one pair at most is the same in every order.
  have slice : (pairs.filter fun p => p.1 == "openreferences") =
      other.filter fun p => p.1 == "openreferences" := by
    refine eq_of_perm_of_length_le_one (perm.filter _) ?_
    rwa [← List.countP_eq_length_filter]
  have listing := value?_run_listing free (rfl : s.spec.value? "openreferences" = _) pairs
  have listing' := value?_run_listing free (rfl : s.spec.value? "openreferences" = _) other
  rw [Specification.openReferences, Specification.openReferences, listing, listing', slice]

/-- The judgement of a directive does not depend on the order of its lines. -/
theorem runPairs_perm (standard : e.registry = .standard) (perm : pairs.Perm other)
    (named : ∀ pair ∈ pairs, pair.1 ≠ "") :
    ∃ inOrder inOrder', Pair.sorted pairs = .ok inOrder ∧ Pair.sorted other = .ok inOrder' ∧
      (e.processAll e.start inOrder).isOk = (e.processAll e.start inOrder').isOk ∧
      ∀ after after' warnings warnings',
        e.processAll e.start inOrder = .ok (after, warnings) →
        e.processAll e.start inOrder' = .ok (after', warnings') →
        after.spec.selectionCriteriaFound = after'.spec.selectionCriteriaFound ∧
        after.spec.openReferencesConflict = after'.spec.openReferencesConflict ∧
        after.spec.totalCategoryCount = after'.spec.totalCategoryCount ∧
        after.spec.processed = after'.spec.processed ∧
        warnings = (e.refused e.start inOrder).map (·.2) ∧
        warnings' = (e.refused e.start inOrder').map (·.2) ∧
        ((e.refused e.start inOrder).filter fun r => r.1.1 != "allowcachedresults").Perm
          ((e.refused e.start inOrder').filter fun r => r.1.1 != "allowcachedresults") ∧
        (pairs.countP (·.1 == "openreferences") ≤ 1 →
          (e.runPairs pairs).isOk = (e.runPairs other).isOk ∧
          ∀ error, e.runPairs pairs = .error error ↔ e.runPairs other = .error error) := by
  have free : e.registry.OrderFree := standard ▸ Registry.orderFree_standard
  have named' : ∀ pair ∈ other, pair.1 ≠ "" := fun pair member =>
    named pair (perm.mem_iff.mpr member)
  have order := Pair.sorted_eq_ok_iff.mpr ⟨named, rfl⟩
  have order' := Pair.sorted_eq_ok_iff.mpr ⟨named', rfl⟩
  have permInOrder : (Pair.prioritized pairs).Perm (Pair.prioritized other) :=
    ((Pair.prioritized_perm pairs).trans perm).trans (Pair.prioritized_perm other).symm
  refine ⟨_, _, order, order', isOk_processAll_perm _ _ permInOrder, ?_⟩
  intro after after' warnings warnings' ran ran'
  obtain ⟨-, rfl, rfl⟩ := processAll_eq_ok_iff.mp ran
  obtain ⟨-, rfl, rfl⟩ := processAll_eq_ok_iff.mp ran'
  have tally := tally_run_perm free e.start permInOrder
  have selects := congrArg Tally.selects tally
  have conflicts := congrArg Tally.conflicts tally
  have categories := congrArg Tally.categories tally
  refine ⟨selects, conflicts, categories, congrArg Tally.given tally, rfl, rfl,
    refused_perm free e.start permInOrder, fun short => ?_⟩
  have short' : (Pair.prioritized pairs).countP (·.1 == "openreferences") ≤ 1 := by
    rwa [(Pair.prioritized_perm pairs).countP_eq]
  have judged := inconsistency?_congr e.settings categories
    (openReferences_run_perm free e.start permInOrder short') selects conflicts
  rw [runPairs_of_sorted order, runPairs_of_sorted order', runSorted_of_processAll ran,
    runSorted_of_processAll ran', judged]
  cases inconsistency? e.settings (e.run e.start (Pair.prioritized other)).spec with
  | some error => exact ⟨rfl, fun _ => Iff.rfl⟩
  | none => exact ⟨rfl, by simp⟩

theorem runPairs_perm_categories :
    let e : Engine := ⟨.standard, {}, Site.host {}⟩
    let pairs := [("mode", "bogus"), ("categorymatch", "A%"), ("category", "Cats|Dogs")]
    let other := [("category", "Cats|Dogs"), ("mode", "bogus"), ("categorymatch", "A%")]
    (e.runPairs pairs).isOk = (e.runPairs other).isOk ∧
      ∃ after after' warnings warnings',
        e.processAll e.start (Pair.prioritized pairs) = .ok (after, warnings) ∧
        e.processAll e.start (Pair.prioritized other) = .ok (after', warnings') ∧
        after.spec.totalCategoryCount = 3 ∧ after'.spec.totalCategoryCount = 3 := by
  intro e pairs other
  have perm : pairs.Perm other := by decide
  have named : ∀ pair ∈ pairs, pair.1 ≠ "" := by decide
  obtain ⟨inOrder, inOrder', order, order', -, verdict⟩ := runPairs_perm (e := e) rfl perm named
  obtain ⟨-, rfl⟩ := Pair.sorted_eq_ok_iff.mp order
  obtain ⟨-, rfl⟩ := Pair.sorted_eq_ok_iff.mp order'
  have harmless : ∀ r ∈ e.refused e.start (Pair.prioritized pairs), e.fatal? r.2 = none := by
    decide +kernel
  have harmless' : ∀ r ∈ e.refused e.start (Pair.prioritized other), e.fatal? r.2 = none := by
    decide +kernel
  have ran := processAll_eq_ok_iff.mpr ⟨harmless, rfl, rfl⟩
  have ran' := processAll_eq_ok_iff.mpr ⟨harmless', rfl, rfl⟩
  obtain ⟨-, -, counts, -, -, -, -, judged⟩ := verdict _ _ _ _ ran ran'
  have three : (e.run e.start (Pair.prioritized pairs)).spec.totalCategoryCount = 3 := by
    decide +kernel
  exact ⟨(judged (by decide)).1, _, _, _, _, ran, ran', three, counts.symm.trans three⟩

end Engine

end WikiQuery

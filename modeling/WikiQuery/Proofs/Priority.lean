import Mathlib.Data.List.Basic
import WikiQuery.Pair

/-!
The order in which pairs are to be read. It holds the pairs that there are, leaving pairs out commutes
with it, and whatever is left of it is in order again.
-/

set_option autoImplicit false

namespace WikiQuery.Pair

/-- The pairs of the priority parameters, in their order, then all others as they stand. -/
def prioritized (pairs : List Pair) : List Pair :=
  (priorityNames.flatMap fun name => pairs.filter fun p => p.1 == name) ++
    pairs.filter fun p => !priorityNames.contains p.1

/-- The pairs of some names, name by name, then all others as they stand. -/
def grouped (names : List String) (pairs : List Pair) : List Pair :=
  (names.flatMap fun name => pairs.filter fun p => p.1 == name) ++
    pairs.filter fun p => !names.contains p.1

theorem priorityNames_nodup : priorityNames.Nodup := by decide

theorem grouped_nil (pairs : List Pair) : grouped [] pairs = pairs := by
  simp [grouped]

/-- The pairs of the first name come first, then the others are grouped by the other names. -/
theorem grouped_cons {name : String} {names : List String} (fresh : name ∉ names)
    (pairs : List Pair) :
    grouped (name :: names) pairs =
      (pairs.filter fun p => p.1 == name) ++
        grouped names (pairs.filter fun p => !(p.1 == name)) := by
  have later : ∀ n ∈ names, (pairs.filter fun p => p.1 == n) =
      (pairs.filter fun p => !(p.1 == name)).filter fun p => p.1 == n := by
    intro n member
    rw [List.filter_filter]
    apply List.filter_congr
    intro p _
    have : p.1 = n → p.1 ≠ name := fun same same' => fresh (same' ▸ same ▸ member)
    grind
  have others : (pairs.filter fun p => !(name :: names).contains p.1) =
      (pairs.filter fun p => !(p.1 == name)).filter fun p => !names.contains p.1 := by
    rw [List.filter_filter]
    apply List.filter_congr
    intro p _
    rw [List.contains_cons, Bool.not_or, Bool.and_comm]
  have front : (names.flatMap fun n => pairs.filter fun p => p.1 == n) =
      names.flatMap fun n => (pairs.filter fun p => !(p.1 == name)).filter fun p => p.1 == n :=
    List.flatMap_congr later
  rw [grouped, List.flatMap_cons, List.append_assoc, others, front, grouped]

theorem grouped_perm {names : List String} (nodup : names.Nodup) (pairs : List Pair) :
    (grouped names pairs).Perm pairs := by
  induction names generalizing pairs with
  | nil => rw [grouped_nil]
  | cons name names ih =>
    obtain ⟨fresh, nodup⟩ := List.nodup_cons.mp nodup
    rw [grouped_cons fresh]
    exact ((ih nodup _).append_left _).trans (List.filter_append_perm _ pairs)

/-- Two parts that are put together fall into these parts again. -/
private theorem filter_parts {α : Type} {f : α → Bool} {yes no : List α}
    (all : ∀ x ∈ yes, f x = true) (none : ∀ x ∈ no, f x = false) :
    (yes ++ no).filter f = yes ∧ ((yes ++ no).filter fun x => !f x) = no := by
  constructor
  · rw [List.filter_append, List.filter_eq_self.mpr all,
      List.filter_eq_nil_iff.mpr fun x member => by simp [none x member], List.append_nil]
  · rw [List.filter_append, List.filter_eq_nil_iff.mpr fun x member => by simp [all x member],
      List.filter_eq_self.mpr fun x member => by simp [none x member], List.nil_append]

private theorem grouped_grouped {names : List String} (nodup : names.Nodup) (pairs : List Pair) :
    grouped names (grouped names pairs) = grouped names pairs := by
  induction names generalizing pairs with
  | nil => rw [grouped_nil]
  | cons name names ih =>
    obtain ⟨fresh, nodup⟩ := List.nodup_cons.mp nodup
    -- The first group stands in front already, and what is behind it has none of its pairs.
    have mine : ∀ p ∈ pairs.filter fun p => p.1 == name, (p.1 == name) = true := by
      intro p member
      exact (List.mem_filter.mp member).2
    have rest : ∀ p ∈ grouped names (pairs.filter fun p => !(p.1 == name)),
        (p.1 == name) = false := by
      intro p member
      have member := (grouped_perm nodup _).subset member
      simpa using (List.mem_filter.mp member).2
    obtain ⟨front, back⟩ := filter_parts mine rest
    rw [grouped_cons fresh pairs, grouped_cons fresh, front, back, ih nodup]

/-- Whatever is left of two parts of a list is what is left of the list. -/
private theorem exists_sublist_of_parts {α : Type} (f : α → Bool) {l a b : List α}
    (yes : a.Sublist (l.filter f)) (no : b.Sublist (l.filter fun x => !f x)) :
    ∃ k : List α, k.Sublist l ∧ k.filter f = a ∧ (k.filter fun x => !f x) = b := by
  induction l generalizing a b with
  | nil =>
    obtain rfl := List.sublist_nil.mp yes
    obtain rfl := List.sublist_nil.mp no
    exact ⟨[], List.nil_sublist _, rfl, rfl⟩
  | cons x l ih =>
    cases part : f x with
    | true =>
      simp only [List.filter_cons, part, Bool.not_true, if_true, Bool.false_eq_true, if_false]
        at yes no
      rcases List.sublist_cons_iff.mp yes with less | ⟨a', rfl, less⟩
      · obtain ⟨k, sub, rfl, rfl⟩ := ih less no
        exact ⟨k, sub.cons x, rfl, rfl⟩
      · obtain ⟨k, sub, rfl, rfl⟩ := ih less no
        exact ⟨x :: k, sub.cons_cons x, by simp [part], by simp [part]⟩
    | false =>
      simp only [List.filter_cons, part, Bool.not_false, if_true, Bool.false_eq_true, if_false]
        at yes no
      rcases List.sublist_cons_iff.mp no with less | ⟨b', rfl, less⟩
      · obtain ⟨k, sub, rfl, rfl⟩ := ih yes less
        exact ⟨k, sub.cons x, rfl, rfl⟩
      · obtain ⟨k, sub, rfl, rfl⟩ := ih yes less
        exact ⟨x :: k, sub.cons_cons x, by simp [part], by simp [part]⟩

private theorem exists_sublist_of_grouped {names : List String} (nodup : names.Nodup)
    {pairs left : List Pair} (sub : left.Sublist (grouped names pairs)) :
    ∃ source : List Pair, source.Sublist pairs ∧ grouped names source = left := by
  induction names generalizing pairs left with
  | nil => exact ⟨left, by rwa [grouped_nil] at sub, grouped_nil left⟩
  | cons name names ih =>
    obtain ⟨fresh, nodup⟩ := List.nodup_cons.mp nodup
    rw [grouped_cons fresh] at sub
    obtain ⟨mine, others, rfl, subMine, subOthers⟩ := List.sublist_append_iff.mp sub
    obtain ⟨source, subSource, rfl⟩ := ih nodup subOthers
    obtain ⟨k, subK, rfl, rfl⟩ := exists_sublist_of_parts _ subMine subSource
    exact ⟨k, subK, grouped_cons fresh k⟩

theorem prioritized_perm (pairs : List Pair) : (prioritized pairs).Perm pairs :=
  grouped_perm priorityNames_nodup pairs

/-- The pairs of the priority parameters stand in front of all others. -/
theorem prioritized_eq_append (pairs : List Pair) :
    ∃ front : List Pair, (∀ p ∈ front, p.1 ∈ priorityNames) ∧
      prioritized pairs = front ++ pairs.filter fun p => !priorityNames.contains p.1 := by
  refine ⟨_, fun p member => ?_, rfl⟩
  obtain ⟨name, priority, member⟩ := List.mem_flatMap.mp member
  rwa [beq_iff_eq.mp (List.mem_filter.mp member).2]

/-- What is read after a pair of no priority are those of no priority that stand behind it. -/
theorem exists_prioritized_eq_append {pair : Pair} (other : pair.1 ∉ priorityNames)
    (before after : List Pair) :
    ∃ earlier : List Pair, prioritized (before ++ pair :: after) =
      earlier ++ pair :: after.filter fun p => !priorityNames.contains p.1 := by
  obtain ⟨front, -, order⟩ := prioritized_eq_append (before ++ pair :: after)
  refine ⟨front ++ before.filter fun p => !priorityNames.contains p.1, ?_⟩
  rw [order, List.filter_append, List.filter_cons_of_pos (by simpa using other), List.append_assoc]

theorem filter_filter_of_not_mem {f : Pair → Bool}
    (other : ∀ p, f p = true → p.1 ∉ priorityNames) (pairs : List Pair) :
    (pairs.filter fun p => !priorityNames.contains p.1).filter f = pairs.filter f := by
  rw [List.filter_filter]
  refine List.filter_congr fun p _ => ?_
  cases chosen : f p with
  | false => rfl
  | true => simpa using other p chosen

/-- None of the pairs of another name stands in front. -/
theorem filter_name_of_not_mem {name : String} (other : name ∉ priorityNames) (pairs : List Pair) :
    ((pairs.filter fun p => !priorityNames.contains p.1).filter fun p => p.1 == name) =
      pairs.filter fun p => p.1 == name := by
  refine filter_filter_of_not_mem (fun p named => ?_) pairs
  rwa [beq_iff_eq.mp named]

/-- Pairs of no priority stay in their order. -/
theorem filter_prioritized {f : Pair → Bool} (other : ∀ p, f p = true → p.1 ∉ priorityNames)
    (pairs : List Pair) : (prioritized pairs).filter f = pairs.filter f := by
  obtain ⟨front, priority, order⟩ := prioritized_eq_append pairs
  have none : front.filter f = [] :=
    List.filter_eq_nil_iff.mpr fun p member chosen => other p chosen (priority p member)
  rw [order, List.filter_append, none, List.nil_append, filter_filter_of_not_mem other]

theorem prioritized_prioritized (pairs : List Pair) :
    prioritized (prioritized pairs) = prioritized pairs :=
  grouped_grouped priorityNames_nodup pairs

/-- What is left of pairs in order can also be left of them before they are put in order. -/
theorem exists_sublist_of_prioritized {pairs left : List Pair}
    (sub : left.Sublist (prioritized pairs)) :
    ∃ source : List Pair, source.Sublist pairs ∧ prioritized source = left :=
  exists_sublist_of_grouped priorityNames_nodup sub

/-- What is left of pairs in order is in order. -/
theorem prioritized_of_sublist {pairs left : List Pair} (sub : left.Sublist (prioritized pairs)) :
    prioritized left = left := by
  obtain ⟨source, -, rfl⟩ := exists_sublist_of_prioritized sub
  exact prioritized_prioritized source

end WikiQuery.Pair

import WikiQuery.Proofs.Priority

/-!
The order in which pairs are read is the one stable order by rank: pairs of the priority parameters
stand in front, by rank, and pairs of one rank, like all others among themselves, stand as they did
before. There is no second order of which this can be said.
-/

set_option autoImplicit false

namespace WikiQuery.Pair

variable {pairs other inOrder : List Pair}

/-- Some pairs are others, put in order by rank. -/
structure Arranges (pairs inOrder : List Pair) : Prop where
  perm : inOrder.Perm pairs
  /-- No pair stands before a priority pair that is none itself. -/
  front : inOrder.Pairwise fun p q => (rank? q.1).isSome = true → (rank? p.1).isSome = true
  ascending : inOrder.Pairwise fun p q => ∀ i ∈ rank? p.1, ∀ j ∈ rank? q.1, i ≤ j
  /-- Pairs of one rank, and those of none, stand as they did before. -/
  stable : ∀ rank, (inOrder.filter fun p => rank? p.1 == rank) =
    pairs.filter fun p => rank? p.1 == rank

private theorem filter_append_filter_not {α : Type} {f : α → Bool} {l : List α}
    (front : l.Pairwise fun a b => f b = true → f a = true) :
    l.filter f ++ (l.filter fun a => !f a) = l := by
  induction l with
  | nil => rfl
  | cons a l ih =>
    obtain ⟨first, rest⟩ := List.pairwise_cons.mp front
    by_cases here : f a = true
    · rw [List.filter_cons_of_pos here, List.filter_cons_of_neg (by simp [here]),
        List.cons_append, ih rest]
    · have none : ∀ b ∈ l, ¬f b = true := fun b member later => here (first b member later)
      have all : ∀ b ∈ a :: l, (!f b) = true := by
        intro b member
        rcases List.mem_cons.mp member with rfl | later
        · simp [here]
        · simp [none b later]
      rw [List.filter_cons_of_neg here, List.filter_eq_nil_iff.mpr none,
        List.filter_eq_self.mpr all, List.nil_append]

/-- Leaving pairs out commutes with grouping them. -/
theorem filter_grouped (f : Pair → Bool) (names : List String) (pairs : List Pair) :
    (grouped names pairs).filter f = grouped names (pairs.filter f) := by
  simp only [grouped, List.filter_append, List.filter_flatMap, List.filter_filter, Bool.and_comm]

/-- Pairs that stand in the order of some names are grouped by them. -/
theorem grouped_eq_self {names : List String} (nodup : names.Nodup)
    (ordered : pairs.Pairwise fun p q => names.idxOf p.1 ≤ names.idxOf q.1) :
    grouped names pairs = pairs := by
  induction names generalizing pairs with
  | nil => exact grouped_nil pairs
  | cons name names ih =>
    obtain ⟨fresh, nodup⟩ := List.nodup_cons.mp nodup
    -- The first name has place zero, so none but its own pairs can stand before one of its pairs.
    have front : pairs.Pairwise fun p q => (q.1 == name) = true → (p.1 == name) = true := by
      refine ordered.imp fun {p q} le mine => ?_
      rw [beq_iff_eq] at mine ⊢
      rw [mine, List.idxOf_cons_self] at le
      by_contra apart
      rw [List.idxOf_cons_ne _ (Ne.symm apart)] at le
      omega
    have rest : (pairs.filter fun p => !(p.1 == name)).Pairwise
        fun p q => names.idxOf p.1 ≤ names.idxOf q.1 := by
      refine (ordered.filter _).imp_of_mem fun {p q} member member' le => ?_
      have apart := (List.mem_filter.mp member).2
      have apart' := (List.mem_filter.mp member').2
      simp only [Bool.not_eq_true', beq_eq_false_iff_ne] at apart apart'
      rw [List.idxOf_cons_ne _ apart.symm, List.idxOf_cons_ne _ apart'.symm] at le
      omega
    rw [grouped_cons fresh, ih nodup rest, filter_append_filter_not front]

theorem pairwise_grouped {names : List String} (nodup : names.Nodup) (pairs : List Pair) :
    (grouped names pairs).Pairwise fun p q => names.idxOf p.1 ≤ names.idxOf q.1 := by
  induction names generalizing pairs with
  | nil => exact List.pairwise_of_forall fun p q => Nat.le_refl _
  | cons name names ih =>
    obtain ⟨fresh, nodup⟩ := List.nodup_cons.mp nodup
    -- The first group has place zero, and all behind it go up by one.
    have mine : ∀ p ∈ pairs.filter fun p => p.1 == name, (name :: names).idxOf p.1 = 0 := by
      intro p member
      rw [beq_iff_eq.mp (List.mem_filter.mp member).2]
      exact List.idxOf_cons_self
    have others : ∀ p ∈ grouped names (pairs.filter fun p => !(p.1 == name)),
        (name :: names).idxOf p.1 = names.idxOf p.1 + 1 := by
      intro p member
      have member := (grouped_perm nodup _).subset member
      have apart : p.1 ≠ name := by simpa using (List.mem_filter.mp member).2
      exact List.idxOf_cons_ne _ apart.symm
    rw [grouped_cons fresh]
    refine List.pairwise_append.mpr ⟨?_, ?_, ?_⟩
    · refine List.pairwise_of_forall_mem_list fun p member q _ => ?_
      rw [mine p member]
      exact Nat.zero_le _
    · refine (ih nodup _).imp_of_mem fun {p q} member member' le => ?_
      rw [others p member, others q member']
      omega
    · intro p member q _
      rw [mine p member]
      exact Nat.zero_le _

theorem rank?_eq_some_iff {name : String} {i : Nat} :
    rank? name = some i ↔ i < priorityNames.length ∧ priorityNames.idxOf name = i :=
  List.findIdx?_eq_some_iff_findIdx_eq

theorem rank?_isSome_iff {name : String} : (rank? name).isSome = true ↔ name ∈ priorityNames :=
  List.isSome_idxOf?

/-- Names of one rank are one name, if it is that of a priority parameter. -/
theorem rank?_eq_rank?_iff {name : String} (priority : name ∈ priorityNames) (other : String) :
    rank? other = rank? name ↔ other = name := by
  refine ⟨fun same => ?_, fun same => same ▸ rfl⟩
  obtain ⟨i, rank⟩ := Option.isSome_iff_exists.mp (rank?_isSome_iff.mpr priority)
  have here := (rank?_eq_some_iff.mp rank).2
  have there := (rank?_eq_some_iff.mp (same.trans rank)).2
  exact (List.idxOf_inj (rank?_isSome_iff.mp (by rw [same, rank]; rfl))).mp (there.trans here.symm)

/-- One name stands no later among the priority names than another, where all names that are none of
them stand behind them. -/
private theorem idxOf_le_idxOf_iff (name other : String) :
    priorityNames.idxOf name ≤ priorityNames.idxOf other ↔
      ((rank? other).isSome = true → (rank? name).isSome = true) ∧
        ∀ i ∈ rank? name, ∀ j ∈ rank? other, i ≤ j := by
  have bound : priorityNames.idxOf name ≤ priorityNames.length := List.idxOf_le_length
  simp only [rank?_isSome_iff, ← List.idxOf_lt_length_iff, Option.mem_def, rank?_eq_some_iff]
  constructor
  · intro le
    exact ⟨by omega, by omega⟩
  · rintro ⟨front, ascending⟩
    by_cases priority : priorityNames.idxOf other < priorityNames.length
    · exact ascending _ ⟨front priority, rfl⟩ _ ⟨priority, rfl⟩
    · omega

private theorem pairwise_idxOf_iff {pairs : List Pair} :
    (pairs.Pairwise fun p q => priorityNames.idxOf p.1 ≤ priorityNames.idxOf q.1) ↔
      (pairs.Pairwise fun p q => (rank? q.1).isSome = true → (rank? p.1).isSome = true) ∧
        pairs.Pairwise fun p q => ∀ i ∈ rank? p.1, ∀ j ∈ rank? q.1, i ≤ j := by
  simp only [idxOf_le_idxOf_iff, List.pairwise_and_iff]

theorem prioritized_filter_rank (pairs : List Pair) (rank : Option Nat) :
    ((prioritized pairs).filter fun p => rank? p.1 == rank) =
      pairs.filter fun p => rank? p.1 == rank := by
  -- Pairs of one rank are in order as they stand, so grouping them changes nothing.
  have level : (pairs.filter fun p => rank? p.1 == rank).Pairwise
      fun p q => priorityNames.idxOf p.1 ≤ priorityNames.idxOf q.1 := by
    refine List.pairwise_of_forall_mem_list fun p member q member' => ?_
    have same : rank? p.1 = rank := by simpa using (List.mem_filter.mp member).2
    have same' : rank? q.1 = rank := by simpa using (List.mem_filter.mp member').2
    rw [idxOf_le_idxOf_iff, same, same']
    refine ⟨id, fun i here j there => ?_⟩
    exact Nat.le_of_eq (Option.mem_unique here there)
  exact (filter_grouped _ _ _).trans (grouped_eq_self priorityNames_nodup level)

theorem arranges_prioritized (pairs : List Pair) : Arranges pairs (prioritized pairs) := by
  obtain ⟨front, ascending⟩ :=
    pairwise_idxOf_iff.mp (pairwise_grouped priorityNames_nodup pairs)
  exact ⟨prioritized_perm pairs, front, ascending, prioritized_filter_rank pairs⟩

private theorem not_contains_eq (p : Pair) :
    (!priorityNames.contains p.1) = (rank? p.1 == none) := by
  rw [Bool.eq_iff_iff, Bool.not_eq_true', ← Bool.not_eq_true, List.contains_iff_mem, beq_iff_eq,
    ← rank?_isSome_iff, Bool.not_eq_true, Option.isSome_eq_false_iff, Option.isNone_iff_eq_none]

private theorem beq_name_eq {name : String} (priority : name ∈ priorityNames) (p : Pair) :
    (p.1 == name) = (rank? p.1 == rank? name) := by
  rw [Bool.eq_iff_iff, beq_iff_eq, beq_iff_eq, rank?_eq_rank?_iff priority]

/-- The order depends on nothing but the pairs of each rank and of none. -/
private theorem prioritized_congr
    (same : ∀ rank, (other.filter fun p => rank? p.1 == rank) =
      pairs.filter fun p => rank? p.1 == rank) :
    prioritized other = prioritized pairs := by
  have groups : ∀ name ∈ priorityNames, (other.filter fun p => p.1 == name) =
      pairs.filter fun p => p.1 == name := by
    intro name priority
    simp only [beq_name_eq priority, same]
  have others : (other.filter fun p => !priorityNames.contains p.1) =
      pairs.filter fun p => !priorityNames.contains p.1 := by
    simp only [not_contains_eq, same]
  rw [prioritized, prioritized, others, List.flatMap_congr groups]

/-- Only one order arranges pairs. -/
theorem eq_prioritized_of_arranges (arranges : Arranges pairs inOrder) :
    inOrder = prioritized pairs := by
  have ordered := pairwise_idxOf_iff.mpr ⟨arranges.front, arranges.ascending⟩
  calc inOrder
    _ = prioritized inOrder := (grouped_eq_self priorityNames_nodup ordered).symm
    _ = prioritized pairs := prioritized_congr arranges.stable

theorem prioritized_eq_iff :
    prioritized other = prioritized pairs ↔
      ((other.filter fun p => !priorityNames.contains p.1) =
        pairs.filter fun p => !priorityNames.contains p.1) ∧
      ∀ name ∈ priorityNames, (other.filter fun p => p.1 == name) =
        pairs.filter fun p => p.1 == name := by
  constructor
  · intro same
    have kept : ∀ rank, (other.filter fun p => rank? p.1 == rank) =
        pairs.filter fun p => rank? p.1 == rank := by
      intro rank
      rw [← prioritized_filter_rank other, same, prioritized_filter_rank]
    refine ⟨by simp only [not_contains_eq, kept], fun name priority => ?_⟩
    simp only [beq_name_eq priority, kept]
  · rintro ⟨others, groups⟩
    rw [prioritized, prioritized, others, List.flatMap_congr groups]

end WikiQuery.Pair

import WikiQuery.Proofs.StableOrder

/-!
How pairs are put in order. They are parted one after the other into those of the priority parameters and
all others, and the first pair without a name stops that; then the former are sorted by rank. As the sort is
stable, what it gives is the one stable order by rank.
-/

set_option autoImplicit false

namespace WikiQuery.Pair

variable {pairs other inOrder : List Pair}

/-- The parts that pairs fall into: those with a rank, and those without. -/
def Parted.of (pairs : List Pair) : Parted where
  ranked := pairs.filterMap fun p => (rank? p.1).map fun rank => (rank, p)
  others := pairs.filter fun p => rank? p.1 == none

/-- The loop over pairs adds the parts that they fall into, or stops at the first one without a name. -/
theorem foldlM_add (pairs : List Pair) (position : Nat) (parted : Parted) :
    (pairs.zipIdx position).foldlM Parted.add parted =
      match pairs.findIdx? fun p => p.1.isEmpty with
      | some place => .error (.structural (.emptyPairName (position + place)))
      | none => .ok
        { ranked := parted.ranked ++ (Parted.of pairs).ranked
          others := parted.others ++ (Parted.of pairs).others } := by
  induction pairs generalizing position parted with
  | nil => simp [Parted.of, pure, Except.pure]
  | cons p pairs ih =>
    rw [List.zipIdx_cons, List.foldlM_cons, List.findIdx?_cons, Parted.add]
    cases nameless : p.1.isEmpty with
    | true => rfl
    | false =>
      cases rank : rank? p.1 with
      | some r =>
        change (pairs.zipIdx (position + 1)).foldlM Parted.add
          { parted with ranked := parted.ranked ++ [(r, p)] } = _
        rw [ih]
        cases pairs.findIdx? fun p => p.1.isEmpty with
        | some place => simp [Nat.add_assoc, Nat.add_comm 1]
        | none => simp [Parted.of, rank]
      | none =>
        change (pairs.zipIdx (position + 1)).foldlM Parted.add
          { parted with others := parted.others ++ [p] } = _
        rw [ih]
        cases pairs.findIdx? fun p => p.1.isEmpty with
        | some place => simp [Nat.add_assoc, Nat.add_comm 1]
        | none => simp [Parted.of, rank]

theorem ranksBefore_trans (a b c : Nat × Pair) (first : ranksBefore a b = true)
    (second : ranksBefore b c = true) : ranksBefore a c = true := by
  simp only [ranksBefore, decide_eq_true_eq] at *
  exact Nat.le_trans first second

theorem ranksBefore_total (a b : Nat × Pair) : (ranksBefore a b || ranksBefore b a) = true := by
  simp only [ranksBefore, Bool.or_eq_true, decide_eq_true_eq]
  exact Nat.le_total a.1 b.1

/-- Sorting keeps the entries of one rank as they stand. -/
theorem filter_mergeSort (entries : List (Nat × Pair)) (rank : Nat) :
    ((entries.mergeSort ranksBefore).filter fun entry => entry.1 == rank) =
      entries.filter fun entry => entry.1 == rank := by
  have level : (entries.filter fun entry => entry.1 == rank).Pairwise
      fun a b => ranksBefore a b = true := by
    refine List.pairwise_of_forall_mem_list fun a member b member' => ?_
    have here : a.1 = rank := by simpa using (List.mem_filter.mp member).2
    have there : b.1 = rank := by simpa using (List.mem_filter.mp member').2
    simp [ranksBefore, here, there]
  have kept := (List.sublist_mergeSort ranksBefore_trans ranksBefore_total level
    List.filter_sublist).filter fun entry => entry.1 == rank
  rw [List.filter_filter] at kept
  simp only [Bool.and_self] at kept
  refine (kept.eq_of_length ?_).symm
  exact ((List.mergeSort_perm entries ranksBefore).filter _).length_eq.symm

/-- An entry that is sorted is a pair with the rank of its name. -/
theorem mem_mergeSort_ranked {entry : Nat × Pair} :
    entry ∈ (Parted.of pairs).ranked.mergeSort ranksBefore ↔
      entry.2 ∈ pairs ∧ rank? entry.2.1 = some entry.1 := by
  rw [List.mem_mergeSort, Parted.of, List.mem_filterMap]
  constructor
  · rintro ⟨p, member, rank⟩
    obtain ⟨r, known, rfl⟩ := Option.map_eq_some_iff.mp rank
    exact ⟨member, known⟩
  · rintro ⟨member, known⟩
    exact ⟨entry.2, member, by rw [known]; rfl⟩

/-- The pairs with a rank, once the ranks are left out. -/
theorem map_snd_ranked (pairs : List Pair) :
    (Parted.of pairs).ranked.map (·.2) = pairs.filter fun p => !(rank? p.1 == none) := by
  induction pairs with
  | nil => rfl
  | cons p pairs ih =>
    cases rank : rank? p.1 with
    | none => simpa [Parted.of, rank] using ih
    | some r => simpa [Parted.of, rank] using ih

theorem map_snd_filter_ranked (pairs : List Pair) (r : Nat) :
    ((Parted.of pairs).ranked.filter fun entry => entry.1 == r).map (·.2) =
      pairs.filter fun p => rank? p.1 == some r := by
  induction pairs with
  | nil => rfl
  | cons p pairs ih =>
    cases rank : rank? p.1 with
    | none => simpa [Parted.of, rank] using ih
    | some r' =>
      by_cases same : r' = r
      · simpa [Parted.of, rank, same] using ih
      · simpa [Parted.of, rank, same] using ih

theorem rank?_isSome_of_mem_front {p : Pair}
    (member : p ∈ ((Parted.of pairs).ranked.mergeSort ranksBefore).map (·.2)) :
    (rank? p.1).isSome = true := by
  obtain ⟨entry, sorted, rfl⟩ := List.mem_map.mp member
  rw [(mem_mergeSort_ranked.mp sorted).2]
  rfl

theorem rank?_of_mem_others {p : Pair} (member : p ∈ (Parted.of pairs).others) :
    rank? p.1 = none :=
  beq_iff_eq.mp (List.mem_filter.mp member).2

/-- Pairs of one rank, and those of none, stand as they did before. -/
theorem filter_inOrder (pairs : List Pair) (rank : Option Nat) :
    ((Parted.of pairs).inOrder.filter fun p => rank? p.1 == rank) =
      pairs.filter fun p => rank? p.1 == rank := by
  rw [Parted.inOrder, List.filter_append]
  cases rank with
  | none =>
    have noFront : (((Parted.of pairs).ranked.mergeSort ranksBefore).map (·.2)).filter
        (fun p => rank? p.1 == none) = [] := by
      refine List.filter_eq_nil_iff.mpr fun p member here => ?_
      have front := rank?_isSome_of_mem_front member
      rw [beq_iff_eq.mp here] at front
      cases front
    rw [noFront, List.nil_append, Parted.of, List.filter_filter]
    simp only [Bool.and_self]
  | some r =>
    have noOthers : (Parted.of pairs).others.filter (fun p => rank? p.1 == some r) = [] := by
      refine List.filter_eq_nil_iff.mpr fun p member here => ?_
      rw [rank?_of_mem_others member] at here
      cases here
    have entries : ((Parted.of pairs).ranked.mergeSort ranksBefore).filter
        ((fun p => rank? p.1 == some r) ∘ (·.2)) =
        ((Parted.of pairs).ranked.mergeSort ranksBefore).filter fun entry => entry.1 == r := by
      refine List.filter_congr fun entry member => ?_
      rw [Function.comp_apply, (mem_mergeSort_ranked.mp member).2]
      rfl
    rw [noOthers, List.append_nil, List.filter_map, entries, filter_mergeSort,
      map_snd_filter_ranked]

/-- Parting pairs and sorting those with a rank arranges them. -/
theorem arranges_inOrder (pairs : List Pair) : Arranges pairs (Parted.of pairs).inOrder where
  perm := by
    have front := (List.mergeSort_perm (Parted.of pairs).ranked ranksBefore).map (·.2)
    rw [map_snd_ranked] at front
    exact (front.append_right _).trans (List.perm_append_comm.trans
      (List.filter_append_perm (fun p : Pair => rank? p.1 == none) pairs))
  front := by
    refine List.pairwise_append.mpr
      ⟨?_, ?_, fun p member q _ _ => rank?_isSome_of_mem_front member⟩
    · exact List.pairwise_of_forall_mem_list fun p member q _ _ => rank?_isSome_of_mem_front member
    · refine List.pairwise_of_forall_mem_list fun p _ q member there => ?_
      rw [rank?_of_mem_others member] at there
      cases there
  ascending := by
    refine List.pairwise_append.mpr ⟨List.pairwise_map.mpr ?_, ?_, ?_⟩
    · refine (List.pairwise_mergeSort ranksBefore_trans ranksBefore_total _).imp_of_mem
        fun {a b} member member' before i here j there => ?_
      rw [(mem_mergeSort_ranked.mp member).2, Option.mem_some_iff] at here
      rw [(mem_mergeSort_ranked.mp member').2, Option.mem_some_iff] at there
      simpa [ranksBefore, here, there] using before
    · refine List.pairwise_of_forall_mem_list fun p member q _ i here => ?_
      rw [rank?_of_mem_others member] at here
      cases here
    · intro p _ q member i _ j there
      rw [rank?_of_mem_others member] at there
      cases there
  stable := filter_inOrder pairs

/-- Pairs are put in their order unless one of them has no name. -/
theorem sorted_eq (pairs : List Pair) :
    sorted pairs =
      match pairs.findIdx? fun p => p.1.isEmpty with
      | some position => .error (.structural (.emptyPairName position))
      | none => .ok (prioritized pairs) := by
  rw [sorted, foldlM_add]
  cases pairs.findIdx? fun p => p.1.isEmpty with
  | some position => simp [Except.map]
  | none =>
    rw [← eq_prioritized_of_arranges (arranges_inOrder pairs)]
    rfl

/-- Pairs can be put in order if each of them has a name. -/
theorem sorted_eq_ok_iff {pairs inOrder : List Pair} :
    sorted pairs = .ok inOrder ↔ (∀ p ∈ pairs, p.1 ≠ "") ∧ inOrder = prioritized pairs := by
  rw [sorted_eq]
  cases found : pairs.findIdx? fun p => p.1.isEmpty with
  | some position =>
    obtain ⟨bound, nameless, -⟩ := List.findIdx?_eq_some_iff_getElem.mp found
    simp only [reduceCtorEq, false_iff, not_and]
    intro named
    exact absurd (String.isEmpty_iff.mp nameless) (named _ (List.getElem_mem bound))
  | none =>
    have named : ∀ p ∈ pairs, p.1 ≠ "" := by
      intro p member nameless
      have := List.findIdx?_eq_none_iff.mp found p member
      simp [nameless] at this
    constructor
    · intro same
      exact ⟨named, (Except.ok.inj same).symm⟩
    · rintro ⟨-, rfl⟩
      rfl

theorem sorted_of_sublist {pairs inOrder left : List Pair} (order : sorted pairs = .ok inOrder)
    (sub : left.Sublist inOrder) : sorted left = .ok left := by
  obtain ⟨named, rfl⟩ := sorted_eq_ok_iff.mp order
  refine sorted_eq_ok_iff.mpr ⟨fun p member => ?_, (prioritized_of_sublist sub).symm⟩
  exact named p ((prioritized_perm pairs).subset (sub.subset member))

/-- What is left of pairs in order can also be left of them before they are put in order. -/
theorem exists_sublist_of_sorted {pairs inOrder left : List Pair}
    (order : sorted pairs = .ok inOrder) (sub : left.Sublist inOrder) :
    ∃ source : List Pair, source.Sublist pairs ∧ sorted source = .ok left := by
  obtain ⟨named, rfl⟩ := sorted_eq_ok_iff.mp order
  obtain ⟨source, subSource, rfl⟩ := exists_sublist_of_prioritized sub
  exact ⟨source, subSource,
    sorted_eq_ok_iff.mpr ⟨fun p member => named p (subSource.subset member), rfl⟩⟩

/-- Pairs cannot be put in order because of the first one without a name. -/
theorem sorted_eq_error_iff {error : ParameterError} :
    sorted pairs = .error error ↔ ∃ position p, pairs[position]? = some p ∧ p.1 = "" ∧
      (∀ q ∈ pairs.take position, q.1 ≠ "") ∧ error = .structural (.emptyPairName position) := by
  rw [sorted_eq]
  cases found : pairs.findIdx? fun p => p.1.isEmpty with
  | none =>
    have named := List.findIdx?_eq_none_iff.mp found
    simp only [reduceCtorEq, false_iff, not_exists, not_and]
    intro position p here nameless
    have := named p (List.mem_of_getElem? here)
    simp [nameless] at this
  | some first =>
    obtain ⟨bound, nameless, earliest⟩ := List.findIdx?_eq_some_iff_getElem.mp found
    simp only [String.isEmpty_iff] at nameless earliest
    constructor
    · intro same
      refine ⟨first, pairs[first], List.getElem?_eq_getElem bound, nameless, ?_,
        (Except.error.inj same).symm⟩
      intro q member
      obtain ⟨i, before, rfl⟩ := List.mem_take_iff_getElem.mp member
      exact earliest i (by omega)
    · rintro ⟨position, p, here, nameless', earliest', rfl⟩
      obtain ⟨bound', rfl⟩ := List.getElem?_eq_some_iff.mp here
      have notAfter : ¬first < position := fun before =>
        earliest' _ (List.mem_take_iff_getElem.mpr ⟨first, by omega, rfl⟩) nameless
      have notBefore : ¬position < first := fun before => earliest position before nameless'
      rw [Nat.le_antisymm (Nat.not_lt.mp notAfter) (Nat.not_lt.mp notBefore)]

/-- Pairs are put in order unless one has no name, and then the first of these is told. There is one
order that arranges them, it is that of the result, which is in order already. Two lists of pairs
come to the same order exactly if they agree on each priority name and on all other pairs. -/
theorem sorted_arranges (pairs : List Pair) :
    ((∃ error, sorted pairs = .error error) ↔ ∃ p ∈ pairs, p.1 = "") ∧
    (∀ error, sorted pairs = .error error ↔ ∃ position p, pairs[position]? = some p ∧ p.1 = "" ∧
      (∀ q ∈ pairs.take position, q.1 ≠ "") ∧ error = .structural (.emptyPairName position)) ∧
    (∀ inOrder, sorted pairs = .ok inOrder →
      Arranges pairs inOrder ∧ (∀ other, Arranges pairs other → other = inOrder) ∧
      sorted inOrder = .ok inOrder) ∧
    ∀ other, (∀ p ∈ pairs, p.1 ≠ "") → (∀ p ∈ other, p.1 ≠ "") →
      (sorted other = sorted pairs ↔
        ((other.filter fun p => !priorityNames.contains p.1) =
          pairs.filter fun p => !priorityNames.contains p.1) ∧
        ∀ name ∈ priorityNames, (other.filter fun p => p.1 == name) =
          pairs.filter fun p => p.1 == name) := by
  refine ⟨?_, fun error => sorted_eq_error_iff, ?_, ?_⟩
  · cases order : sorted pairs with
    | error error =>
      obtain ⟨position, p, here, nameless, -⟩ := sorted_eq_error_iff.mp order
      simp only [Except.error.injEq, exists_eq', true_iff]
      exact ⟨p, List.mem_of_getElem? here, nameless⟩
    | ok inOrder =>
      obtain ⟨named, -⟩ := sorted_eq_ok_iff.mp order
      simp only [reduceCtorEq, exists_false, false_iff, not_exists, not_and]
      exact named
  · intro inOrder order
    obtain ⟨-, rfl⟩ := sorted_eq_ok_iff.mp order
    refine ⟨arranges_prioritized pairs, fun other arranges => ?_, ?_⟩
    · exact eq_prioritized_of_arranges arranges
    · exact sorted_of_sublist order (List.Sublist.refl _)
  · intro other named named'
    rw [sorted_eq_ok_iff.mpr ⟨named, rfl⟩, sorted_eq_ok_iff.mpr ⟨named', rfl⟩, Except.ok.injEq]
    exact prioritized_eq_iff

theorem sorted_arranges_table_include :
    sorted [("table", "t"), ("include", "a"), ("category", "c"), ("include", "b")] =
      sorted [("category", "c"), ("include", "a"), ("table", "t"), ("include", "b")] := by
  obtain ⟨-, -, -, same⟩ :=
    sorted_arranges [("category", "c"), ("include", "a"), ("table", "t"), ("include", "b")]
  exact (same _ (by decide) (by decide)).mpr (by decide)

end WikiQuery.Pair

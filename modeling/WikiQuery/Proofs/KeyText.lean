import WikiQuery.Proofs.Rendering

/-!
What the key of a directive is made from. It is made from the lines of the pairs in the order in
which they are read. Pairs are told from their lines if no name holds an equals sign and no value a
line break, as with the pairs of a directive's text. Then the key is made from the same text for the
same pairs only, so that this text fixes what a directive comes to. Other pairs can share their
lines: two of them may have one text in either order, although the later one counts.
-/

set_option autoImplicit false

namespace WikiQuery

namespace Pair

variable {p : Pair} {pairs others : List Pair}

/-- A pair that is told from its line. -/
structure Legible (p : Pair) : Prop where
  unequalName : '=' ∉ p.1.toList
  singleValue : '\n' ∉ p.2.toList

instance (p : Pair) : Decidable p.Legible :=
  decidable_of_iff ('=' ∉ p.1.toList ∧ '\n' ∉ p.2.toList)
    ⟨fun h => ⟨h.1, h.2⟩, fun h => ⟨h.unequalName, h.singleValue⟩⟩

theorem Clean.legible (clean : p.Clean) : p.Legible :=
  ⟨clean.unequalName, clean.singleValue⟩

/-- What stands in a text behind the value of a pair, before these pairs. -/
private def behind : List Pair → List Char
  | [] => []
  | p :: pairs => '\n' :: (text (p :: pairs)).toList

private theorem toList_text_cons (p : Pair) (pairs : List Pair) :
    (text (p :: pairs)).toList = p.1.toList ++ '=' :: (p.2.toList ++ behind pairs) := by
  cases pairs with
  | nil => simp [text, behind, toList_line]
  | cons q pairs => simp [text, behind, toList_line, List.intercalate]

private theorem text_cons_ne_text_nil (p : Pair) (pairs : List Pair) :
    text (p :: pairs) ≠ text [] := by
  intro same
  have lines := congrArg String.toList same
  rw [toList_text_cons] at lines
  simp [text] at lines

private theorem cut_value {value value' : List Char} {after after' : List Pair}
    (single : '\n' ∉ value) (single' : '\n' ∉ value')
    (same : value ++ behind after = value' ++ behind after') :
    value = value' ∧ text after = text after' := by
  have none : ∀ {cs : List Char}, '\n' ∉ cs → Text.cut? '\n' (cs ++ behind []) = none := by
    intro cs absent
    rw [behind, List.append_nil]
    exact Text.cut?_eq_none_iff.mpr absent
  have found : ∀ {cs : List Char}, '\n' ∉ cs → ∀ (q : Pair) qs,
      Text.cut? '\n' (cs ++ behind (q :: qs)) = some (cs, (text (q :: qs)).toList) :=
    fun absent q qs => Text.cut?_append absent _
  have cuts := congrArg (Text.cut? '\n') same
  cases after with
  | nil =>
    cases after' with
    | nil =>
      rw [behind, List.append_nil, List.append_nil] at same
      exact ⟨same, rfl⟩
    | cons q qs =>
      rw [none single, found single'] at cuts
      cases cuts
  | cons p ps =>
    cases after' with
    | nil =>
      rw [none single', found single] at cuts
      cases cuts
    | cons q qs =>
      rw [found single, found single', Option.some.injEq, Prod.mk.injEq] at cuts
      exact ⟨cuts.1, String.toList_inj.mp cuts.2⟩

theorem eq_of_text_eq (legible : ∀ p ∈ pairs, p.Legible) (legible' : ∀ p ∈ others, p.Legible)
    (same : text pairs = text others) : pairs = others := by
  induction pairs generalizing others with
  | nil =>
    cases others with
    | nil => rfl
    | cons q qs => exact absurd same.symm (text_cons_ne_text_nil q qs)
  | cons p ps ih =>
    cases others with
    | nil => exact absurd same (text_cons_ne_text_nil p ps)
    | cons q qs =>
      obtain ⟨first, later⟩ := List.forall_mem_cons.mp legible
      obtain ⟨first', later'⟩ := List.forall_mem_cons.mp legible'
      -- The first equals sign ends the first name, and the next line break the value behind it.
      have lines := congrArg String.toList same
      rw [toList_text_cons, toList_text_cons] at lines
      have cuts := congrArg (Text.cut? '=') lines
      rw [Text.cut?_append first.unequalName, Text.cut?_append first'.unequalName,
        Option.some.injEq, Prod.mk.injEq] at cuts
      obtain ⟨value, rest⟩ := cut_value first.singleValue first'.singleValue cuts.2
      have head : p = q := Prod.ext (String.toList_inj.mp cuts.1) (String.toList_inj.mp value)
      rw [head, ih later later' rest]

end Pair

namespace Engine

variable {e : Engine} {pairs others inOrder inOrder' : List Pair}

/-- Pairs that are told from their lines come to the same if the key of both lists is made from the
same text. -/
theorem runPairs_of_text_eq (order : Pair.sorted pairs = .ok inOrder)
    (order' : Pair.sorted others = .ok inOrder') (legible : ∀ pair ∈ pairs, pair.Legible)
    (legible' : ∀ pair ∈ others, pair.Legible) (same : Pair.text inOrder = Pair.text inOrder') :
    inOrder = inOrder' ∧ e.runPairs pairs = e.runPairs others ∧
      ∀ outcome, e.runPairs pairs = .ok outcome →
        outcome.fingerprint = Digest.ofText e.host.digest fingerprintBytes (Pair.text inOrder) := by
  have kept : ∀ {given sorted : List Pair}, Pair.sorted given = .ok sorted →
      (∀ pair ∈ given, pair.Legible) → ∀ pair ∈ sorted, pair.Legible := by
    intro given sorted order legible pair member
    rw [(Pair.sorted_eq_ok_iff.mp order).2] at member
    exact legible pair ((Pair.prioritized_perm given).subset member)
  have equal : inOrder = inOrder' :=
    Pair.eq_of_text_eq (kept order legible) (kept order' legible') same
  refine ⟨equal, ?_, fun outcome ran => ?_⟩
  · rw [runPairs_of_sorted order, runPairs_of_sorted order', equal]
  · rw [runPairs_of_sorted order] at ran
    obtain ⟨-, -, rfl⟩ := runSorted_eq_ok_iff.mp ran
    rfl

theorem runPairs_of_text_eq_categories :
    let e : Engine := ⟨.standard, {}, Site.host {}⟩
    let pairs : List Pair := [("mode", "inline"), ("category", "A=B")]
    let others : List Pair := Pair.ofText "Category = A=B\nmode=inline"
    Pair.text (Pair.prioritized pairs) = "category=A=B\nmode=inline" ∧
      e.runPairs pairs = e.runPairs others := by
  intro e pairs others
  have legible : ∀ pair ∈ pairs, pair.Legible := by decide
  have legible' : ∀ pair ∈ others, pair.Legible := fun _ member =>
    (Pair.clean_of_mem_ofText member).legible
  have order : Pair.sorted pairs = .ok (Pair.prioritized pairs) := by decide +kernel
  have order' : Pair.sorted others = .ok (Pair.prioritized others) := Pair.sorted_ofText _
  have same : Pair.text (Pair.prioritized pairs) = Pair.text (Pair.prioritized others) := by
    decide +kernel
  obtain ⟨-, equal, -⟩ := runPairs_of_text_eq (e := e) order order' legible legible' same
  exact ⟨by decide +kernel, equal⟩

private theorem exists_spec_ne (e : Engine) (pairs others : List Pair) (key : String)
    (named : ∀ pair ∈ pairs ++ others, pair.1 ≠ "")
    (fine : (e.runSorted (Pair.prioritized pairs)).isOk = true)
    (fine' : (e.runSorted (Pair.prioritized others)).isOk = true)
    (differ : (e.run e.start (Pair.prioritized pairs)).spec.value? key ≠
      (e.run e.start (Pair.prioritized others)).spec.value? key) :
    ∃ outcome outcome', e.runPairs pairs = .ok outcome ∧ e.runPairs others = .ok outcome' ∧
      outcome.spec ≠ outcome'.spec := by
  rw [← runPairs_of_named fun pair member => named pair (List.mem_append_left _ member)] at fine
  rw [← runPairs_of_named fun pair member => named pair (List.mem_append_right _ member)] at fine'
  obtain ⟨outcome, ran⟩ := exists_outcome_of_isOk fine
  obtain ⟨outcome', ran'⟩ := exists_outcome_of_isOk fine'
  refine ⟨outcome, outcome', ran, ran', fun equal => differ ?_⟩
  rw [← (spec_of_runPairs ran).1, ← (spec_of_runPairs ran').1, equal]

/-- The key does not tell two orders of the same pairs apart if a value holds a line break, although
the later pair counts, and it does not tell a name with an equals sign from a shorter one. -/
theorem runPairs_text_eq_spec_ne :
    let e : Engine := ⟨.standard, {}, Site.host {}⟩
    (∃ pairs others outcome outcome', pairs.Perm others ∧
      (∀ pair ∈ pairs ++ others, '=' ∉ pair.1.toList) ∧
      e.runPairs pairs = .ok outcome ∧ e.runPairs others = .ok outcome' ∧
      Pair.text (Pair.prioritized pairs) = Pair.text (Pair.prioritized others) ∧
      outcome.spec ≠ outcome'.spec) ∧
    ∃ pairs others outcome outcome', (∀ pair ∈ pairs ++ others, '\n' ∉ pair.2.toList) ∧
      e.runPairs pairs = .ok outcome ∧ e.runPairs others = .ok outcome' ∧
      Pair.text (Pair.prioritized pairs) = Pair.text (Pair.prioritized others) ∧
      outcome.spec ≠ outcome'.spec := by
  intro e
  constructor
  · let first : Pair := ("resultsheader", "x\nresultsheader=x")
    let second : Pair := ("resultsheader", "x")
    obtain ⟨outcome, outcome', ran, ran', differ⟩ :=
      exists_spec_ne e [("category", "A"), first, second] [("category", "A"), second, first]
        "resultsheader" (by decide) (by decide +kernel) (by decide +kernel) (by decide +kernel)
    exact ⟨_, _, outcome, outcome', (List.Perm.swap second first []).cons _, by decide, ran, ran',
      by decide +kernel, differ⟩
  · obtain ⟨outcome, outcome', ran, ran', differ⟩ :=
      exists_spec_ne e [("category", "B"), ("category", "A=x")]
        [("category", "B"), ("category=A", "x")] "category" (by decide) (by decide +kernel)
        (by decide +kernel) (by decide +kernel)
    exact ⟨_, _, outcome, outcome', by decide, ran, ran', by decide +kernel, differ⟩

end Engine

end WikiQuery

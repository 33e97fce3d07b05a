import WikiQuery.Proofs.Footprint

/-!
The number of categories that a query asks for or shuts out. Every line adds to it what it would add
to any other query, although all lines write to the same two values.
-/

set_option autoImplicit false

namespace WikiQuery

namespace Reading

theorem termCount_withGroup (selector : CategorySelector) (isAnd : Bool) (group : List String) :
    (withGroup selector isAnd group).termCount = selector.termCount + group.length := by
  cases isAnd with
  | true =>
    simp only [withGroup, CategorySelector.termCount, if_true, List.flatten_append,
      List.length_append, List.flatten_cons, List.flatten_nil, List.append_nil]
    omega
  | false =>
    simp only [withGroup, CategorySelector.termCount, Bool.false_eq_true, if_false,
      List.flatten_append, List.length_append, List.flatten_cons, List.flatten_nil, List.append_nil]
    omega

theorem termCount_withCategoryPattern (selector : CategorySelector) (kind : PatternKind)
    (pattern : String) :
    (withCategoryPattern selector kind pattern).termCount = selector.termCount + 1 := by
  cases kind with
  | regexp =>
    simp only [withCategoryPattern, CategorySelector.termCount, List.length_append,
      List.length_singleton]
    omega
  | like =>
    simp only [withCategoryPattern, CategorySelector.termCount, List.length_append,
      List.length_singleton]
    omega

end Reading

namespace Specification

variable {s t : Specification} {key : String}

theorem categoryCount_eq (s : Specification) (key : String) :
    s.categoryCount key = (Reading.categoriesOf s key).termCount := by
  unfold categoryCount Reading.categoriesOf
  cases s.categories? key <;> rfl

theorem categoryCount_congr (h : s.value? key = t.value? key) :
    s.categoryCount key = t.categoryCount key := by
  simp only [categoryCount, categories?, h]

theorem totalCategoryCount_congr (wanted : s.value? "category" = t.value? "category")
    (unwanted : s.value? "notcategory" = t.value? "notcategory") :
    s.totalCategoryCount = t.totalCategoryCount := by
  simp only [totalCategoryCount, categoryCount_congr wanted, categoryCount_congr unwanted]

theorem totalCategoryCount_write_of_forall_ne {writes : List (String × Value)}
    (apart : ∀ w ∈ writes, w.1 ≠ "category" ∧ w.1 ≠ "notcategory") :
    (s.write writes).totalCategoryCount = s.totalCategoryCount :=
  totalCategoryCount_congr (value?_write_of_forall_ne fun w member => (apart w member).1)
    (value?_write_of_forall_ne fun w member => (apart w member).2)

theorem categoryCount_write_selector (s : Specification) (selector : CategorySelector)
    (key other : String) :
    (s.write [(key, .categories selector)]).categoryCount other =
      if key = other then selector.termCount else s.categoryCount other := by
  by_cases same : key = other
  · simp [categoryCount, categories?, value?_write_singleton, same]
  · simp [categoryCount, categories?, value?_write_singleton, same]

/-- A selector with some terms more makes for as many categories more. -/
theorem totalCategoryCount_write_selector (side : Side) {selector : CategorySelector} {n : Nat}
    {writes : List (String × Value)}
    (more : selector.termCount = s.categoryCount (Reading.categoryKeyOf side) + n)
    (apart : ∀ w ∈ writes, w.1 ≠ "category" ∧ w.1 ≠ "notcategory") :
    (s.write ((Reading.categoryKeyOf side, .categories selector) :: writes)).totalCategoryCount =
      s.totalCategoryCount + n := by
  rw [write_cons, totalCategoryCount_write_of_forall_ne apart]
  cases side with
  | wanted =>
    simp only [totalCategoryCount, categoryCount_write_selector, Reading.categoryKeyOf] at more ⊢
    simp only [if_true, String.reduceEq, if_false]
    omega
  | unwanted =>
    simp only [totalCategoryCount, categoryCount_write_selector, Reading.categoryKeyOf] at more ⊢
    simp only [if_true, String.reduceEq, if_false]
    omega

/-- The query after the writes of a reading, if it takes its text. -/
def written (s : Specification) : Option Change → Specification
  | none => s
  | some change => s.write change.writes

end Specification

/-- Whether the rules of a handler choose pages by category. -/
def Handler.countsCategories : Handler → Bool
  | .category | .notCategory | .categoryPattern _ _ => true
  | _ => false

namespace Reading

variable {settings : Settings} {host : Host} {p : Parameter} {text : String}

private theorem totalCategoryCount_groupWrites (s : Specification) (cs : List Char) (isAnd : Bool)
    (group : List String) {writes : List (String × Value)}
    (apart : ∀ w ∈ writes, w.1 ≠ "category" ∧ w.1 ≠ "notcategory") :
    (s.write (groupWrites s (headingOf cs).1 isAnd group ++ writes)).totalCategoryCount =
      s.totalCategoryCount + group.length := by
  unfold groupWrites
  split
  · rename_i none
    rw [List.nil_append, Specification.totalCategoryCount_write_of_forall_ne apart,
      List.isEmpty_iff.mp none, List.length_nil, Nat.add_zero]
  · rw [List.cons_append]
    refine s.totalCategoryCount_write_selector .wanted ?_ ?_
    · rw [termCount_withGroup, s.categoryCount_eq]
      rfl
    · intro w member
      rcases List.mem_append.mp member with member | member
      · cases heading : (headingOf cs).1 with
        | none => simp [heading] at member
        | some key =>
          simp only [heading, List.mem_singleton] at member
          rcases heading_mem heading with rfl | rfl <;> simp [member]
      · exact apart w member

private theorem exists_gain_category (host : Host) (text : String) :
    ∃ n, ∀ s : Specification,
      (s.written (category host s text)).totalCategoryCount = s.totalCategoryCount + n := by
  simp only [category]
  split_ifs
  · exact ⟨0, fun s => rfl⟩
  · exact ⟨0, fun s => rfl⟩
  · refine ⟨_, fun s => totalCategoryCount_groupWrites s _ _ _ ?_⟩
    intro w member
    simp_all
  · refine ⟨_, fun s => totalCategoryCount_groupWrites s _ _ _ ?_⟩
    intro w member
    simp_all

/-- A handler that chooses by category adds as many categories to every query. -/
theorem exists_gain_handled? {handler : Handler} (h : handler.countsCategories = true) :
    ∃ n, ∀ s : Specification,
      (s.written (handled? settings host p s text handler)).totalCategoryCount =
        s.totalCategoryCount + n := by
  cases handler with
  | category => exact exists_gain_category host text
  | notCategory =>
    simp only [handled?, notCategory]
    cases host.resolveTitle (String.ofList (Text.decoded (Text.trimmed text.toList))) with
    | none => exact ⟨0, fun s => rfl⟩
    | some title =>
      refine ⟨1, fun s => s.totalCategoryCount_write_selector .unwanted ?_ (by simp)⟩
      rw [termCount_withGroup, s.categoryCount_eq]
      rfl
  | categoryPattern side kind =>
    simp only [handled?, categoryPattern]
    by_cases blank : (Text.trim text).isEmpty
    · refine ⟨0, fun s => s.totalCategoryCount_write_selector side ?_ (by simp)⟩
      rw [if_pos blank, s.categoryCount_eq, Nat.add_zero]
    · refine ⟨1, fun s => s.totalCategoryCount_write_selector side ?_ (by simp)⟩
      rw [if_neg blank, termCount_withCategoryPattern, s.categoryCount_eq]
  | _ => cases h

/-- A parameter adds as many categories to every query, if it has no value of categories but by the
rules of those that choose by category. -/
theorem exists_gain (settings : Settings) (host : Host) (text : String)
    (h : "category" ∈ p.footprint ∨ "notcategory" ∈ p.footprint →
      p.handler.any Handler.countsCategories = true) :
    ∃ n, ∀ s : Specification,
      (s.written (change? settings host p s text)).totalCategoryCount =
        s.totalCategoryCount + n := by
  by_cases touched : "category" ∈ p.footprint ∨ "notcategory" ∈ p.footprint
  · have counts := h touched
    cases rules : p.handler with
    | none => simp [rules] at counts
    | some handler =>
      rw [rules] at counts
      simp only [change?, rules]
      exact exists_gain_handled? counts
  · refine ⟨0, fun s => ?_⟩
    cases taken : change? settings host p s text with
    | none => rfl
    | some change =>
      refine Specification.totalCategoryCount_write_of_forall_ne fun w member => ?_
      have within := (writes_change? change taken).writes w member
      constructor
      · intro same
        exact touched (.inl (same ▸ within))
      · intro same
        exact touched (.inr (same ▸ within))

end Reading

end WikiQuery

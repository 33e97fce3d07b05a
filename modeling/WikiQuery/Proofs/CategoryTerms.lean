import WikiQuery.Proofs.FirstOccurrence
import WikiQuery.Value

/-!
The terms that a query reads from a selector of categories, against the number of terms that counts
for the limits. A query reads each term of a side once, in the order in which the terms are first
given; the number of terms has each as often as it is given. So there are at most as many to read as
are counted, and fewer if and only if a side has a term twice, in one group or in two.
-/

set_option autoImplicit false

namespace WikiQuery

variable {groups : List (List String)} {terms : List String}

/-- The terms of some groups, each once, in the order in which they first occur when the groups are
read one after the other. -/
structure ListsTerms (groups : List (List String)) (terms : List String) : Prop where
  nodup : terms.Nodup
  mem_iff : ∀ term, term ∈ terms ↔ ∃ group ∈ groups, term ∈ group
  order : terms.Pairwise fun a b => groups.flatten.idxOf a < groups.flatten.idxOf b

theorem FirstOccurrences.listsTerms (h : FirstOccurrences groups.flatten terms) :
    ListsTerms groups terms where
  nodup := h.nodup
  mem_iff term := (h.mem_iff term).trans List.mem_flatten
  order := h.order

namespace CategorySelector

theorem firstOccurrences_andTerms (s : CategorySelector) :
    FirstOccurrences s.allOf.flatten s.andTerms :=
  firstOccurrences_eraseDups s.allOf.flatten

theorem firstOccurrences_orTerms (s : CategorySelector) :
    FirstOccurrences s.anyOf.flatten s.orTerms :=
  firstOccurrences_eraseDups s.anyOf.flatten

/-- The two sides are counted each by itself. -/
theorem termCount_eq (s : CategorySelector) :
    s.termCount =
      s.allOf.flatten.length + s.anyOf.flatten.length + s.regexp.length + s.like.length := by
  simp only [termCount, List.flatten_append, List.length_append]

/-- A query reads each term of a side once, where it is first given, and it reads as many terms as are
counted if and only if no side has a term twice. -/
theorem terms_termCount (s : CategorySelector) :
    ListsTerms s.allOf s.andTerms ∧ ListsTerms s.anyOf s.orTerms ∧
      s.andTerms.length + s.orTerms.length + s.regexp.length + s.like.length ≤ s.termCount ∧
      (s.andTerms.length + s.orTerms.length + s.regexp.length + s.like.length = s.termCount ↔
        s.allOf.flatten.Nodup ∧ s.anyOf.flatten.Nodup) := by
  have all := s.firstOccurrences_andTerms
  have any := s.firstOccurrences_orTerms
  have allLe := all.length_le
  have anyLe := any.length_le
  refine ⟨all.listsTerms, any.listsTerms, ?_, ?_⟩
  · rw [termCount_eq]
    omega
  · -- Neither side is longer than what is given, so one cannot make up for what the other lacks.
    rw [termCount_eq, ← all.length_eq_iff, ← any.length_eq_iff]
    omega

/-- A term that two groups share is read once and counted twice. -/
example :
    let s : CategorySelector := { anyOf := [["Animals", "Plants"], ["Plants", "Minerals"]] }
    s.orTerms = ["Animals", "Plants", "Minerals"] ∧ s.andTerms = [] ∧ s.termCount = 4 := by
  decide

end CategorySelector

end WikiQuery

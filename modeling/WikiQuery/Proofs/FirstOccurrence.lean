import Mathlib.Data.List.Nodup
import Mathlib.Data.List.Perm.Subperm
import Mathlib.Order.Basic

/-!
The members of a list in the order in which they first occur in it, each once. There is one such list,
and it is the one that is left when later occurrences are erased. It is as long as the list if and
only if nothing occurs twice in the list.
-/

set_option autoImplicit false

namespace WikiQuery

variable {α : Type} [BEq α] {items firsts : List α}

/-- The members of a list in the order in which they first occur in it. -/
structure FirstOccurrences (items firsts : List α) : Prop where
  mem_iff : ∀ a, a ∈ firsts ↔ a ∈ items
  order : firsts.Pairwise fun a b => items.idxOf a < items.idxOf b

theorem FirstOccurrences.nodup (h : FirstOccurrences items firsts) : firsts.Nodup :=
  h.order.imp fun {a b} before same => absurd before (by rw [same]; exact Nat.lt_irrefl _)

/-- There is one such list only. -/
theorem FirstOccurrences.unique {others : List α} (h : FirstOccurrences items firsts)
    (h' : FirstOccurrences items others) : firsts = others := by
  have perm : firsts.Perm others :=
    (List.perm_ext_iff_of_nodup h.nodup h'.nodup).mpr fun a => (h.mem_iff a).trans (h'.mem_iff a).symm
  refine perm.eq_of_pairwise (fun a b _ _ before behind => ?_) h.order h'.order
  exact absurd before (Nat.lt_asymm behind)

/-- Each member of the list is in it once at most, so it is a part of the list in some order. -/
theorem FirstOccurrences.subperm (h : FirstOccurrences items firsts) : firsts.Subperm items := by
  apply h.nodup.subperm
  intro a member
  exact (h.mem_iff a).mp member

theorem FirstOccurrences.length_le (h : FirstOccurrences items firsts) :
    firsts.length ≤ items.length :=
  h.subperm.length_le

theorem FirstOccurrences.length_eq_iff (h : FirstOccurrences items firsts) :
    firsts.length = items.length ↔ items.Nodup := by
  constructor
  · intro same
    have perm : firsts.Perm items := h.subperm.perm_of_length_le (Nat.le_of_eq same.symm)
    exact perm.nodup_iff.mp h.nodup
  · intro nodup
    have perm : firsts.Perm items := (List.perm_ext_iff_of_nodup h.nodup nodup).mpr h.mem_iff
    exact perm.length_eq

variable [LawfulBEq α]

/-- What is left out of a list does not change the order of the rest. -/
private theorem idxOf_lt_of_filter {keep : α → Bool} {a b : α} (left : keep a = true)
    (right : keep b = true) (before : (items.filter keep).idxOf a < (items.filter keep).idxOf b) :
    items.idxOf a < items.idxOf b := by
  induction items with
  | nil => exact absurd before (Nat.lt_irrefl _)
  | cons item items ih =>
    by_cases kept : keep item = true
    · rw [List.filter_cons_of_pos kept] at before
      by_cases first : item = a
      · subst first
        have apart : item ≠ b := by
          rintro rfl
          exact absurd before (Nat.lt_irrefl _)
        rw [List.idxOf_cons_self, List.idxOf_cons_ne _ apart]
        exact Nat.succ_pos _
      · have apart : item ≠ b := by
          rintro rfl
          rw [List.idxOf_cons_self] at before
          exact absurd before (Nat.not_lt_zero _)
        rw [List.idxOf_cons_ne _ first, List.idxOf_cons_ne _ apart] at before ⊢
        exact Nat.succ_lt_succ (ih (Nat.lt_of_succ_lt_succ before))
    · rw [List.filter_cons_of_neg kept] at before
      have first : item ≠ a := fun same => kept (same ▸ left)
      have apart : item ≠ b := fun same => kept (same ▸ right)
      rw [List.idxOf_cons_ne _ first, List.idxOf_cons_ne _ apart]
      exact Nat.succ_lt_succ (ih before)

theorem firstOccurrences_eraseDups (items : List α) : FirstOccurrences items items.eraseDups := by
  refine ⟨fun a => List.mem_eraseDups, ?_⟩
  match items with
  | [] => exact List.Pairwise.nil
  | a :: items =>
    have shorter : (items.filter fun b => !b == a).length < items.length + 1 :=
      Nat.lt_succ_of_le (List.length_filter_le _ items)
    -- All behind the first member differ from it, so they stand behind it in the list, too.
    have apart : ∀ b ∈ (items.filter fun b => !b == a).eraseDups, a ≠ b := fun b member => by
      have other := (List.mem_filter.mp (List.mem_eraseDups.mp member)).2
      simpa using Ne.symm (by simpa using other : b ≠ a)
    rw [List.eraseDups_cons, List.pairwise_cons]
    refine ⟨fun b member => ?_, ?_⟩
    · rw [List.idxOf_cons_self, List.idxOf_cons_ne _ (apart b member)]
      exact Nat.succ_pos _
    · refine (firstOccurrences_eraseDups (items.filter fun b => !b == a)).order.imp_of_mem
        fun {b c} member member' before => ?_
      have left := (List.mem_filter.mp (List.mem_eraseDups.mp member)).2
      have right := (List.mem_filter.mp (List.mem_eraseDups.mp member')).2
      rw [List.idxOf_cons_ne _ (apart b member), List.idxOf_cons_ne _ (apart c member')]
      exact Nat.succ_lt_succ (idxOf_lt_of_filter left right before)
termination_by items.length

theorem nodup_eraseDups (items : List α) : items.eraseDups.Nodup :=
  (firstOccurrences_eraseDups items).nodup

/-- Where nothing occurs twice, nothing is erased. -/
theorem eraseDups_eq_self (nodup : items.Nodup) : items.eraseDups = items := by
  induction items with
  | nil => rfl
  | cons a items ih =>
    obtain ⟨fresh, rest⟩ := List.nodup_cons.mp nodup
    have kept : (items.filter fun b => !b == a) = items := by
      refine List.filter_eq_self.mpr fun b member => ?_
      have other : b ≠ a := fun same => fresh (same ▸ member)
      simpa using other
    rw [List.eraseDups_cons, kept, ih rest]

end WikiQuery

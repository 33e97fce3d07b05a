import Mathlib.Data.List.Infix
import Mathlib.Tactic.ByContra
import WikiQuery.Proofs.FirstOccurrence
import WikiQuery.Site

/-!
The categories below a category. The search goes down level by level and follows no category twice; it
finds those to which a way down leads, however the ways run together or back, and nothing else.
-/

set_option autoImplicit false

namespace WikiQuery.Site

variable {below : String → String → Prop} {step : String → List String}
  {frontier found : List String} {root name : String} {n : Nat}

/-- A way down from one category to another in a number of steps. -/
inductive Descends (below : String → String → Prop) : Nat → String → String → Prop
  | here (root : String) : Descends below 0 root root
  | down {n : Nat} {root parent child : String} :
    Descends below n root parent → below parent child → Descends below (n + 1) root child

/-- What a search has found after `n` levels, and where it goes on from. -/
structure Explored (below : String → String → Prop) (root : String) (n : Nat)
    (frontier found : List String) : Prop where
  found_iff : ∀ name, name ∈ found ↔ ∃ k, 1 ≤ k ∧ k ≤ n ∧ Descends below k root name
  /-- A way of `n` steps leads to each category that is followed. -/
  sound : ∀ name ∈ frontier, Descends below n root name
  /-- A category at the end of such a way is followed, if no shorter way leads to it. -/
  complete : ∀ name, Descends below n root name →
    name ∈ frontier ∨ ∃ k, 1 ≤ k ∧ k < n ∧ Descends below k root name
  nodup : found.Nodup

/-- The categories that one level more finds. -/
def nextLevel (step : String → List String) (frontier found : List String) : List String :=
  (frontier.flatMap step).eraseDups.filter fun name => !found.contains name

theorem reach_succ (step : String → List String) (depth : Nat) (frontier found : List String) :
    reach step (depth + 1) frontier found =
      reach step depth (nextLevel step frontier found) (found ++ nextLevel step frontier found) :=
  rfl

theorem mem_nextLevel_iff :
    name ∈ nextLevel step frontier found ↔
      (∃ parent ∈ frontier, name ∈ step parent) ∧ name ∉ found := by
  simp [nextLevel, List.mem_eraseDups, List.mem_flatMap]

theorem Explored.start (below : String → String → Prop) (root : String) :
    Explored below root 0 [root] [] where
  found_iff name := by
    refine ⟨fun member => absurd member List.not_mem_nil, ?_⟩
    rintro ⟨k, positive, none, -⟩
    omega
  sound name member := by
    rw [List.mem_singleton.mp member]
    exact .here root
  complete name way := by
    cases way
    exact .inl List.mem_cons_self
  nodup := List.nodup_nil

/-- A category that is found already is not followed again: the ways through it are no shorter than
those through its first place. -/
theorem Explored.next (lists : ∀ parent child, child ∈ step parent ↔ below parent child)
    (h : Explored below root n frontier found) :
    Explored below root (n + 1) (nextLevel step frontier found)
      (found ++ nextLevel step frontier found) := by
  have sound : ∀ name ∈ nextLevel step frontier found, Descends below (n + 1) root name := by
    intro name member
    obtain ⟨⟨parent, followed, listed⟩, -⟩ := mem_nextLevel_iff.mp member
    exact (h.sound parent followed).down ((lists parent name).mp listed)
  have found_iff : ∀ name, name ∈ found ++ nextLevel step frontier found ↔
      ∃ k, 1 ≤ k ∧ k ≤ n + 1 ∧ Descends below k root name := by
    intro name
    constructor
    · intro member
      rcases List.mem_append.mp member with old | new
      · obtain ⟨k, positive, le, way⟩ := (h.found_iff name).mp old
        exact ⟨k, positive, Nat.le_succ_of_le le, way⟩
      · exact ⟨n + 1, Nat.succ_pos n, Nat.le_refl _, sound name new⟩
    · rintro ⟨k, positive, le, way⟩
      by_cases old : name ∈ found
      · exact List.mem_append_left _ old
      · -- The way is a longest one, and its last step starts from a category that is followed.
        have longest : k = n + 1 := by
          by_contra other
          exact old ((h.found_iff name).mpr ⟨k, positive, by omega, way⟩)
        subst longest
        cases way with
        | @down _ _ parent _ before listed =>
          rcases h.complete parent before with followed | ⟨k, positive, lt, shorter⟩
          · refine List.mem_append_right _ (mem_nextLevel_iff.mpr ⟨⟨parent, followed, ?_⟩, old⟩)
            exact (lists parent name).mpr listed
          · exact absurd ((h.found_iff name).mpr ⟨k + 1, by omega, by omega, shorter.down listed⟩) old
  refine ⟨found_iff, sound, fun name way => ?_, ?_⟩
  · rcases List.mem_append.mp ((found_iff name).mpr ⟨n + 1, by omega, by omega, way⟩) with old | new
    · obtain ⟨k, positive, le, shorter⟩ := (h.found_iff name).mp old
      exact .inr ⟨k, positive, by omega, shorter⟩
    · exact .inl new
  · refine List.nodup_append.mpr ⟨h.nodup, (nodup_eraseDups _).filter _, fun a old b new same => ?_⟩
    exact (mem_nextLevel_iff.mp new).2 (same ▸ old)

theorem Explored.reach (lists : ∀ parent child, child ∈ step parent ↔ below parent child)
    (h : Explored below root n frontier found) (depth : Nat) :
    ∃ last, Explored below root (n + depth) last (reach step depth frontier found) := by
  induction depth generalizing n frontier found with
  | zero => exact ⟨frontier, h⟩
  | succ depth ih =>
    obtain ⟨last, explored⟩ := ih (h.next lists)
    refine ⟨last, ?_⟩
    rw [reach_succ, Nat.add_comm depth 1, ← Nat.add_assoc]
    exact explored

/-- What a search finds stands in front of all that it finds further down. -/
theorem reach_prefix_reach (step : String → List String) (depth more : Nat)
    (frontier found : List String) :
    reach step depth frontier found <+: reach step (depth + more) frontier found := by
  induction depth generalizing frontier found with
  | zero =>
    rw [Nat.zero_add]
    induction more generalizing frontier found with
    | zero => exact List.prefix_refl found
    | succ more ih =>
      rw [reach_succ]
      exact (List.prefix_append found _).trans (ih _ _)
  | succ depth ih =>
    rw [Nat.succ_add, reach_succ, reach_succ]
    exact ih _ _

/-- One category lies directly below another if they are listed so, under whatever spellings. -/
def LiesBelow (site : Site) (parent child : String) : Prop :=
  ∃ name names other, site.categories[name]? = some names ∧ other ∈ names ∧
    categoryKey name = parent ∧ categoryKey other = child ∧ child ≠ ""

theorem mem_children_iff (site : Site) (parent child : String) :
    child ∈ site.children parent ↔ site.LiesBelow parent child := by
  unfold children childrenAmong storedCategories
  simp only [List.mem_eraseDups, List.mem_flatMap, List.mem_filter, List.mem_map, Prod.exists,
    beq_iff_eq, Std.ExtTreeMap.mem_toList_iff_getElem?_eq_some]
  constructor
  · rintro ⟨key, keys, ⟨⟨name, names, listed, shape⟩, rfl⟩, member⟩
    obtain ⟨rfl, rfl⟩ := Prod.mk.inj shape
    obtain ⟨stored, inhabited⟩ := List.mem_filter.mp member
    obtain ⟨other, given, rfl⟩ := List.mem_map.mp stored
    exact ⟨name, names, other, listed, given, rfl, rfl, by simpa using inhabited⟩
  · rintro ⟨name, names, other, listed, given, rfl, rfl, inhabited⟩
    refine ⟨_, _, ⟨⟨name, names, listed, rfl⟩, rfl⟩, List.mem_filter.mpr ⟨?_, ?_⟩⟩
    · exact List.mem_map_of_mem given
    · simpa using inhabited

/-- The categories below one, down to a depth, are those to which a way of as many steps leads, but of
no more than two. Each is given once, those further down stand behind the others, and from two levels on
a greater depth finds no more. -/
theorem subcategories_descends (site : Site) (category : String) (depth : Nat) :
    (site.subcategories category depth).Nodup ∧
    (∀ name, name ∈ site.subcategories category depth ↔
      ∃ n, 1 ≤ n ∧ n ≤ min depth 2 ∧ Descends site.LiesBelow n (categoryKey category) name) ∧
    site.subcategories category 1 <+: site.subcategories category (1 + depth) ∧
    site.subcategories category (2 + depth) = site.subcategories category 2 := by
  have search : ∀ depth, site.subcategories category depth =
      reach site.children (min depth 2) [categoryKey category] [] := fun _ => rfl
  obtain ⟨last, explored⟩ := (Explored.start site.LiesBelow (categoryKey category)).reach
    site.mem_children_iff (min depth 2)
  rw [Nat.zero_add, ← search] at explored
  refine ⟨explored.nodup, explored.found_iff, ?_, ?_⟩
  · obtain ⟨more, deeper⟩ : ∃ more, min (1 + depth) 2 = 1 + more := ⟨min (1 + depth) 2 - 1, by omega⟩
    rw [search, search, deeper]
    exact reach_prefix_reach _ 1 more _ _
  · rw [search, search, Nat.min_eq_right (Nat.le_add_right 2 depth), Nat.min_self]

/-- Ways that run back to where they came from, and two spellings of one parent. -/
example :
    let site : Site := { categories := .ofList [("Animals", ["Birds", " animals"]),
      ("animals_", ["Mammals", "Birds", "_"]), ("Birds", ["Animals", "Owls"]), ("Owls", ["Barn owls"])] }
    site.subcategories "animals" 9 = ["Birds", "Animals", "Mammals", "Owls"] := by
  intro site
  cbv

end WikiQuery.Site

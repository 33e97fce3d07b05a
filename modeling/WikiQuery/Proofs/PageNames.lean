import Mathlib.Data.List.Basic
import WikiQuery.Reading.PageList
import WikiQuery.Site

/-!
The names in a list of pages. A name is what stands between two bars, trimmed, without the backslash that
may end it: it is not empty, it holds no bar, and no white space begins it. White space ends it only where
it stood in front of the backslash. A list of titles is made of the same names, and there is one if each
of them is that of a title.
-/

set_option autoImplicit false

namespace WikiQuery.Reading

open Text (pieces trimmed isBlank)

variable {α β γ : Type} {host : Host} {s name : String} {cs ds : List Char}

theorem withoutBackslash_concat (cs : List Char) : withoutBackslash (cs ++ ['\\']) = cs := by
  rw [withoutBackslash, if_pos List.getLast?_concat, List.dropLast_concat]

/-- Without the backslash at its end a text is the same, or the backslash is all that is gone. -/
theorem withoutBackslash_cases (cs : List Char) :
    withoutBackslash cs = cs ∨ cs = withoutBackslash cs ++ ['\\'] := by
  unfold withoutBackslash
  split
  · rename_i last
    exact .inr (List.dropLast_append_getLast? _ last).symm
  · exact .inl rfl

theorem withoutBackslash_prefix_self (cs : List Char) : withoutBackslash cs <+: cs := by
  rcases withoutBackslash_cases cs with same | cut
  · exact ⟨[], (List.append_nil _).trans same⟩
  · exact ⟨['\\'], cut.symm⟩

theorem mem_pageNames_iff :
    name ∈ pageNames s ↔
      name ≠ "" ∧ ∃ piece ∈ pieces '|' (trimmed s.toList),
        name.toList = withoutBackslash (trimmed piece) := by
  simp only [pageNames, List.mem_map, List.mem_filter, Bool.not_eq_true', List.isEmpty_eq_false_iff]
  constructor
  · rintro ⟨cs, ⟨⟨piece, member, rfl⟩, inhabited⟩, rfl⟩
    refine ⟨fun empty => inhabited ?_, piece, member, String.toList_ofList⟩
    rw [← String.toList_inj, String.toList_ofList] at empty
    exact empty
  · rintro ⟨inhabited, piece, member, same⟩
    refine ⟨name.toList, ⟨⟨piece, member, same.symm⟩, ?_⟩, String.ofList_toList⟩
    rwa [ne_eq, String.toList_eq_nil_iff]

theorem bar_not_mem_of_mem_pageNames (member : name ∈ pageNames s) : '|' ∉ name.toList := by
  obtain ⟨-, piece, cut, same⟩ := mem_pageNames_iff.mp member
  rw [same]
  intro bar
  have inside := (withoutBackslash_prefix_self _).subset bar
  exact Text.not_mem_of_mem_pieces cut ((Text.trimmed_sublist piece).subset inside)

/-- What stands in front of the backslash begins as the whole does. -/
theorem isBlank_of_head?_withoutBackslash {c : Char}
    (first : (withoutBackslash (trimmed cs)).head? = some c) : isBlank c = false := by
  obtain ⟨front, -⟩ := Text.trimmed_eq_self_iff.mp (Text.trimmed_trimmed cs)
  refine front c ?_
  obtain ⟨rest, parts⟩ := withoutBackslash_prefix_self (trimmed cs)
  rw [← parts, List.head?_append, first]
  rfl

/-- Whether a text, once trimmed, ends with white space and a backslash behind it. -/
def EndsLoosely (cs : List Char) : Prop :=
  ∃ ds c, isBlank c = true ∧ trimmed cs = ds ++ [c, '\\']

theorem EndsLoosely.exists_withoutBackslash_eq (loose : EndsLoosely cs) :
    ∃ ds c, isBlank c = true ∧ withoutBackslash (trimmed cs) = ds ++ [c] := by
  obtain ⟨ds, c, blank, ending⟩ := loose
  have parts : ds ++ [c, '\\'] = ds ++ [c] ++ ['\\'] := by rw [List.append_assoc]; rfl
  exact ⟨ds, c, blank, by rw [ending, parts, withoutBackslash_concat]⟩

/-- A text that is trimmed and freed of its backslash is trimmed unless white space stood in front of the
backslash. -/
theorem trimmed_withoutBackslash_iff :
    trimmed (withoutBackslash (trimmed cs)) = withoutBackslash (trimmed cs) ↔ ¬EndsLoosely cs := by
  constructor
  · intro trim loose
    obtain ⟨ds, c, blank, cut⟩ := loose.exists_withoutBackslash_eq
    rw [cut] at trim
    have solid := (Text.trimmed_eq_self_iff.mp trim).2 c List.getLast?_concat
    rw [blank] at solid
    cases solid
  · intro firm
    refine Text.trimmed_eq_self_iff.mpr ⟨fun c => isBlank_of_head?_withoutBackslash, ?_⟩
    intro c last
    rcases withoutBackslash_cases (trimmed cs) with same | cut
    · rw [same] at last
      exact (Text.trimmed_eq_self_iff.mp (Text.trimmed_trimmed cs)).2 c last
    · refine Bool.eq_false_iff.mpr fun blank =>
        firm ⟨(withoutBackslash (trimmed cs)).dropLast, c, blank, ?_⟩
      rw [← List.singleton_append, ← List.append_assoc, List.dropLast_append_getLast? c last]
      exact cut

/-- The names of a list are all trimmed unless a piece of it ends with white space and a backslash. -/
theorem forall_trim_pageNames_iff :
    (∀ name ∈ pageNames s, Text.trim name = name) ↔
      ∀ piece ∈ pieces '|' (trimmed s.toList), ¬EndsLoosely piece := by
  have trim : ∀ name : String, Text.trim name = name ↔ trimmed name.toList = name.toList := by
    intro name
    rw [← String.toList_inj, Text.trim, String.toList_ofList]
  simp only [trim]
  constructor
  · intro all piece member loose
    obtain ⟨ds, c, -, cut⟩ := loose.exists_withoutBackslash_eq
    have named : String.ofList (withoutBackslash (trimmed piece)) ∈ pageNames s := by
      refine mem_pageNames_iff.mpr ⟨fun empty => ?_, piece, member, String.toList_ofList⟩
      rw [cut, ← String.toList_inj, String.toList_ofList] at empty
      simp at empty
    have kept := all _ named
    rw [String.toList_ofList] at kept
    exact trimmed_withoutBackslash_iff.mp kept loose
  · intro firm name member
    obtain ⟨-, piece, cut, same⟩ := mem_pageNames_iff.mp member
    rw [same]
    exact trimmed_withoutBackslash_iff.mpr (firm piece cut)

theorem exists_map_some_iff {f : α → Option β} {as : List α} :
    (∃ bs : List β, as.map f = bs.map some) ↔ ∀ a ∈ as, (f a).isSome = true := by
  induction as with
  | nil => exact ⟨fun _ => by simp, fun _ => ⟨[], rfl⟩⟩
  | cons a as ih =>
    rw [List.forall_mem_cons, ← ih]
    constructor
    · rintro ⟨bs, same⟩
      cases bs with
      | nil => cases same
      | cons b bs =>
        obtain ⟨first, rest⟩ := List.cons.inj same
        exact ⟨by rw [first]; rfl, bs, rest⟩
    · rintro ⟨found, bs, rest⟩
      obtain ⟨b, first⟩ := Option.isSome_iff_exists.mp found
      exact ⟨b :: bs, by rw [List.map_cons, List.map_cons, first, rest]⟩

/-- A list is made of what is found for each member, in their order, or not at all. -/
theorem mapM_map_eq_some_iff {f : α → Option β} {g : β → γ} {as : List α} {made : List γ} :
    as.mapM (fun a => (f a).map g) = some made ↔
      ∃ bs : List β, as.map f = bs.map some ∧ made = bs.map g := by
  induction as generalizing made with
  | nil =>
    constructor
    · rintro ⟨rfl⟩
      exact ⟨[], rfl, rfl⟩
    · rintro ⟨bs, none, rfl⟩
      obtain rfl := List.map_eq_nil_iff.mp none.symm
      rfl
  | cons a as ih =>
    rw [List.mapM_cons]
    constructor
    · intro read
      obtain ⟨c, first, read⟩ := Option.bind_eq_some_iff.mp read
      obtain ⟨cs, rest, read⟩ := Option.bind_eq_some_iff.mp read
      obtain rfl := Option.some.inj read
      obtain ⟨b, found, rfl⟩ := Option.map_eq_some_iff.mp first
      obtain ⟨bs, same, rfl⟩ := ih.mp rest
      exact ⟨b :: bs, by rw [List.map_cons, List.map_cons, found, same], rfl⟩
    · rintro ⟨bs, same, rfl⟩
      cases bs with
      | nil => cases same
      | cons b bs =>
        obtain ⟨found, rest⟩ := List.cons.inj same
        rw [found, ih.mpr ⟨bs, rest, rfl⟩]
        rfl

/-- Every text comes to a list of names, none of which is empty, holds a bar or begins with white space;
and they are all trimmed unless a piece of the text ends with white space and a backslash. There is a list
of titles if and only if each of the names is that of a title, and then it holds the titles of these
names in their order. -/
theorem pageList?_names (host : Host) (text : String) :
    ∃ names : List String, pageList? host .anyNames text = some (names.map .name) ∧
      (∀ name ∈ names, name ≠ "" ∧ '|' ∉ name.toList ∧
        ∀ c ∈ name.toList.head?, isBlank c = false) ∧
      ((∀ name ∈ names, Text.trim name = name) ↔
        ∀ piece ∈ pieces '|' (trimmed text.toList), ¬EndsLoosely piece) ∧
      ((pageList? host .titles text).isSome = true ↔
        ∀ name ∈ names, (host.resolveTitle name).isSome = true) ∧
      ∀ pages, pageList? host .titles text = some pages ↔
        ∃ titles : List Title, names.map host.resolveTitle = titles.map some ∧
          pages = titles.map .title := by
  have listed : ∀ pages, pageList? host .titles text = some pages ↔
      ∃ titles : List Title, (pageNames text).map host.resolveTitle = titles.map some ∧
        pages = titles.map .title :=
    fun pages => mapM_map_eq_some_iff
  refine ⟨pageNames text, rfl, fun name member => ?_, forall_trim_pageNames_iff, ?_, listed⟩
  · obtain ⟨inhabited, piece, -, same⟩ := mem_pageNames_iff.mp member
    refine ⟨inhabited, bar_not_mem_of_mem_pageNames member, fun c first => ?_⟩
    rw [same] at first
    exact isBlank_of_head?_withoutBackslash first
  · rw [← exists_map_some_iff, Option.isSome_iff_exists]
    constructor
    · rintro ⟨pages, read⟩
      obtain ⟨titles, same, -⟩ := (listed pages).mp read
      exact ⟨titles, same⟩
    · rintro ⟨titles, same⟩
      exact ⟨_, (listed _).mpr ⟨titles, same, rfl⟩⟩

/-- The white space in front of a backslash is left when the backslash goes. -/
theorem pageList?_loose :
    let host := Site.host {}
    pageList? host .anyNames "A \\|B" = some [.name "A ", .name "B"] ∧ Text.trim "A " ≠ "A " := by
  decide +kernel

end WikiQuery.Reading

import Mathlib.Data.List.Basic
import WikiQuery.Proofs.Capitals
import WikiQuery.Proofs.Descent

/-!
The one form in which names are stored. A key has single underscores within and none at its ends, it
holds no white space, and it begins with a capital. The names of titles and those of categories are
brought into this form in two ways, and both come to keys.
-/

set_option autoImplicit false

namespace WikiQuery

namespace Text

variable {cs ds : List Char} {s : String}

/-- The form in which names are stored. -/
structure IsKey (s : String) : Prop where
  inhabited : s ≠ ""
  solid : ∀ c ∈ s.toList, isBlank c = false
  start : s.toList.head? ≠ some '_'
  finish : s.toList.getLast? ≠ some '_'
  single : ¬['_', '_'] <:+: s.toList
  capital : capitalizeFirst s = s

/-- A text without underscores in which single spaces are the only white space. -/
structure Neat (cs : List Char) : Prop where
  spaces : ∀ c ∈ cs, isBlank c = true → c = ' '
  single : ¬[' ', ' '] <:+: cs
  plain : '_' ∉ cs

/-- A neat text without white space at its ends, the form in which names are read. -/
structure Tidy (cs : List Char) : Prop extends Neat cs where
  trim : trimmed cs = cs

theorem Neat.of_infix (h : Neat ds) (part : cs <:+: ds) : Neat cs where
  spaces c member := h.spaces c (part.subset member)
  single double := h.single (double.trans part)
  plain member := h.plain (part.subset member)

theorem trimEnd_prefix_self (cs : List Char) : trimEnd cs <+: cs := by
  induction cs with
  | nil => exact List.prefix_refl []
  | cons c cs ih =>
    rw [trimEnd_cons]
    split
    · exact List.nil_prefix
    · exact List.cons_prefix_cons.mpr ⟨rfl, ih⟩

theorem trimmed_infix_self (cs : List Char) : trimmed cs <:+: cs :=
  (trimEnd_prefix_self _).isInfix.trans (List.dropWhile_suffix isBlank).isInfix

theorem Neat.tidy_trimmed (h : Neat cs) : Tidy (trimmed cs) where
  toNeat := h.of_infix (trimmed_infix_self cs)
  trim := trimmed_trimmed cs

/-- Joining runs of white space leaves single spaces, and none in front behind a run under way. -/
private theorem neat_joinBlanksFrom (plain : '_' ∉ cs) (afterBlank : Bool) :
    Neat (joinBlanksFrom afterBlank cs) ∧
      (afterBlank = true → (joinBlanksFrom afterBlank cs).head? ≠ some ' ') := by
  induction cs generalizing afterBlank with
  | nil => exact ⟨⟨by simp [joinBlanksFrom], by simp [joinBlanksFrom], by simp [joinBlanksFrom]⟩,
      by simp [joinBlanksFrom]⟩
  | cons c cs ih =>
    rw [List.mem_cons, not_or] at plain
    by_cases blank : isBlank c = true
    · obtain ⟨neat, apart⟩ := ih plain.2 true
      cases afterBlank with
      | true =>
        rw [joinBlanksFrom, if_pos blank, if_pos rfl]
        exact ⟨neat, apart⟩
      | false =>
        rw [joinBlanksFrom, if_pos blank, if_neg (by simp)]
        refine ⟨⟨?_, ?_, ?_⟩, by simp⟩
        · intro d member
          rcases List.mem_cons.mp member with rfl | member
          · exact fun _ => rfl
          · exact neat.spaces d member
        · intro double
          rcases List.infix_cons_iff.mp double with front | later
          · obtain ⟨rest, shape⟩ := (List.cons_prefix_cons.mp front).2
            exact apart rfl (by rw [← shape]; rfl)
          · exact neat.single later
        · rw [List.mem_cons, not_or]
          exact ⟨by decide, neat.plain⟩
    · obtain ⟨neat, -⟩ := ih plain.2 false
      have other : c ≠ ' ' := by
        rintro rfl
        exact blank isBlank_space
      rw [joinBlanksFrom, if_neg blank]
      refine ⟨⟨?_, ?_, ?_⟩, fun _ => by simp [other]⟩
      · intro d member
        rcases List.mem_cons.mp member with rfl | member
        · exact fun held => absurd held blank
        · exact neat.spaces d member
      · intro double
        rcases List.infix_cons_iff.mp double with front | later
        · exact other (List.cons_prefix_cons.mp front).1.symm
        · exact neat.single later
      · rw [List.mem_cons, not_or]
        exact ⟨plain.1, neat.plain⟩

/-- A text that is read with its underscores as spaces is tidy when its white space is joined. -/
theorem tidy_spaced_fromKey (s : String) : Tidy (spaced (fromKey s).toList) := by
  have plain : '_' ∉ (fromKey s).toList := by
    rw [fromKey, replaceChar, String.toList_ofList, List.mem_map]
    rintro ⟨c, -, image⟩
    split at image
    · cases image
    · exact absurd image ‹_›
  exact (neat_joinBlanksFrom plain false).1.tidy_trimmed

/-- A character as it is stored. -/
def keyChar (c : Char) : Char :=
  if c = ' ' then '_' else c

theorem toList_toKey (s : String) : (toKey s).toList = s.toList.map keyChar :=
  String.toList_ofList

private theorem ne_space_of_isBlank_eq_false {c : Char} (solid : isBlank c = false) : c ≠ ' ' := by
  rintro rfl
  rw [isBlank_space] at solid
  cases solid

theorem keyChar_of_solid {c : Char} (solid : isBlank c = false) : keyChar c = c :=
  if_neg (ne_space_of_isBlank_eq_false solid)

theorem Neat.isBlank_keyChar (h : Neat cs) {c : Char} (member : c ∈ cs) :
    isBlank (keyChar c) = false := by
  unfold keyChar
  split
  · decide
  · rename_i other
    exact Bool.eq_false_iff.mpr fun blank => other (h.spaces c member blank)

/-- In a neat text only spaces are stored as underscores. -/
theorem Neat.eq_space (h : Neat cs) {c : Char} (member : c ∈ cs) (image : keyChar c = '_') :
    c = ' ' := by
  unfold keyChar at image
  split at image
  · assumption
  · exact absurd (image ▸ member) h.plain

theorem Neat.not_double_underscore (h : Neat cs) : ¬['_', '_'] <:+: cs.map keyChar := by
  rw [List.infix_map_iff]
  rintro ⟨part, inside, image⟩
  obtain ⟨a, b, rfl⟩ := List.length_eq_two.mp (by simpa using congrArg List.length image.symm)
  simp only [List.map_cons, List.map_nil, List.cons.injEq, and_true] at image
  have left := h.eq_space (inside.subset (by simp)) image.1.symm
  have right := h.eq_space (inside.subset (by simp)) image.2.symm
  rw [left, right] at inside
  exact h.single inside

/-- A tidy text with a capital in front is stored as a key. -/
theorem Tidy.isKey_toKey (tidy : Tidy cs) (inhabited : cs ≠ []) (capital : capitalized cs = cs) :
    IsKey (toKey (String.ofList cs)) := by
  have shape : (toKey (String.ofList cs)).toList = cs.map keyChar := by
    rw [toList_toKey, String.toList_ofList]
  obtain ⟨first, last⟩ := trimmed_eq_self_iff.mp tidy.trim
  obtain ⟨c, cs, rfl⟩ := List.exists_cons_of_ne_nil inhabited
  have front : keyChar c = c := keyChar_of_solid (first c rfl)
  constructor
  · intro empty
    rw [empty] at shape
    cases shape
  · intro d member
    rw [shape] at member
    obtain ⟨e, there, rfl⟩ := List.mem_map.mp member
    exact tidy.isBlank_keyChar there
  · rw [shape, List.map_cons, front, List.head?_cons, ne_eq, Option.some.injEq]
    rintro rfl
    exact tidy.plain List.mem_cons_self
  · rw [shape, List.getLast?_map]
    intro found
    obtain ⟨d, ending, image⟩ := Option.map_eq_some_iff.mp found
    have space := tidy.eq_space (List.mem_of_getLast? ending) image
    exact ne_space_of_isBlank_eq_false (last d ending) space
  · rw [shape]
    exact tidy.not_double_underscore
  · -- The first letter is no space, so it is stored as it is and needs no other capital.
    obtain ⟨d, ds, upper, kept⟩ := exists_upperChar_eq_cons c
    rw [capitalized, upper, List.cons_append] at capital
    obtain ⟨rfl, -⟩ := List.cons.inj capital
    have stored : toKey (String.ofList (d :: cs)) = String.ofList (d :: cs.map keyChar) := by
      rw [← String.toList_inj, shape, String.toList_ofList, List.map_cons, front]
    rw [stored, capitalizeFirst, String.toList_ofList, capitalized, kept, List.singleton_append]

private theorem double_of_append {x : Char} (apart : x ∉ ds) (double : [x, x] <:+: ds ++ cs) :
    [x, x] <:+: cs := by
  induction ds with
  | nil => exact double
  | cons d ds ih =>
    rw [List.mem_cons, not_or] at apart
    rcases List.infix_cons_iff.mp double with front | later
    · exact absurd (List.cons_prefix_cons.mp front).1 apart.1
    · exact ih apart.2 later

/-- The upper case of a letter in front of a neat text leaves it neat. -/
private theorem neat_upperChar_append {c : Char} (rest : Neat cs) (plain : c ≠ '_')
    (solid : isBlank c = false) : Neat (upperChar c ++ cs) where
  spaces d member blank := by
    rcases List.mem_append.mp member with here | later
    · rw [isBlank_of_mem_upperChar here solid] at blank
      cases blank
    · exact rest.spaces d later blank
  single double := by
    have apart : ' ' ∉ upperChar c := fun member =>
      ne_space_of_isBlank_eq_false (isBlank_of_mem_upperChar member solid) rfl
    exact rest.single (double_of_append apart double)
  plain := by
    rw [List.mem_append, not_or]
    exact ⟨underscore_not_mem_upperChar plain, rest.plain⟩

/-- The first capital leaves a tidy text tidy. -/
theorem Tidy.capitalized (tidy : Tidy cs) : Tidy (capitalized cs) := by
  cases cs with
  | nil => exact tidy
  | cons c cs =>
    obtain ⟨first, last⟩ := trimmed_eq_self_iff.mp tidy.trim
    have solid := first c rfl
    have plain : c ≠ '_' := fun same => tidy.plain (same ▸ List.mem_cons_self)
    have rest : Neat cs := tidy.toNeat.of_infix (List.suffix_cons c cs).isInfix
    refine ⟨neat_upperChar_append rest plain solid, trimmed_eq_self_iff.mpr ⟨?_, ?_⟩⟩
    · intro d front
      obtain ⟨e, es, upper, -⟩ := exists_upperChar_eq_cons c
      rw [Text.capitalized, upper, List.cons_append, List.head?_cons, Option.some.injEq] at front
      exact isBlank_of_mem_upperChar (by rw [upper, front]; exact List.mem_cons_self) solid
    · intro d ending
      rw [Text.capitalized, List.getLast?_append] at ending
      cases behind : cs.getLast? with
      | some e =>
        rw [behind, Option.some_or, Option.some.injEq] at ending
        exact last d (by simp [List.getLast?_cons, behind, ending])
      | none =>
        rw [behind, Option.none_or] at ending
        exact isBlank_of_mem_upperChar (List.mem_of_getLast? ending) solid

theorem capitalized_ne_nil (inhabited : cs ≠ []) : capitalized cs ≠ [] := by
  obtain ⟨c, rest, rfl⟩ := List.exists_cons_of_ne_nil inhabited
  obtain ⟨d, ds, upper, -⟩ := exists_upperChar_eq_cons c
  simp [capitalized, upper]

theorem isKey_toKey_capitalized (tidy : Tidy cs) (inhabited : cs ≠ []) :
    IsKey (toKey (String.ofList (capitalized cs))) :=
  tidy.capitalized.isKey_toKey (capitalized_ne_nil inhabited) (capitalized_capitalized cs)

/-- A key has no spaces, so it is stored as it is. -/
theorem IsKey.toKey_eq (h : IsKey s) : toKey s = s := by
  have same : s.toList.map keyChar = s.toList :=
    (List.map_congr_left fun c member => keyChar_of_solid (h.solid c member)).trans (List.map_id _)
  rw [← String.toList_inj, toList_toKey, same]

end Text

namespace Title

open Text (Tidy trimmed trimStart trimEnd)

variable {lookup : String → Option Int} {text : String} {title : Title} {cs : List Char}

/-- The text behind a colon in front, and the text itself if there is none. -/
def withoutColon : List Char → List Char
  | ':' :: cs => trimStart cs
  | cs => cs

/-- The text in front of a fragment. -/
def withoutFragment (cs : List Char) : List Char :=
  match Text.cut? '#' cs with
  | some (before, _) => trimEnd before
  | none => cs

theorem plainText_eq (text : String) :
    plainText text = withoutFragment (withoutColon (Text.spaced (Text.fromKey text).toList)) := by
  unfold plainText
  generalize Text.spaced (Text.fromKey text).toList = cs
  rfl

private theorem tidy_withoutColon (tidy : Tidy cs) : Tidy (withoutColon cs) := by
  unfold withoutColon
  split
  · rename_i cs
    have colon : ¬Text.isBlank ':' = true := by decide
    have back : trimEnd cs = cs := by
      have trim := tidy.trim
      rw [trimmed, Text.trimStart_cons, if_neg colon, Text.trimEnd_cons,
        if_neg fun both => colon both.2] at trim
      exact (List.cons.inj trim).2
    have same : trimStart cs = trimmed cs := by rw [trimmed, ← Text.trimStart_trimEnd, back]
    rw [same]
    exact (tidy.toNeat.of_infix (List.suffix_cons ':' cs).isInfix).tidy_trimmed
  · exact tidy

private theorem tidy_withoutFragment (tidy : Tidy cs) : Tidy (withoutFragment cs) := by
  unfold withoutFragment
  split
  · rename_i before behind cut
    obtain ⟨rfl, -⟩ := Text.eq_of_cut?_eq_some cut
    have start : trimStart before = before := by
      refine Text.trimStart_eq_self fun c first => ?_
      exact (Text.trimmed_eq_self_iff.mp tidy.trim).1 c (by simp [List.head?_append, first])
    have same : trimEnd before = trimmed before := by rw [trimmed, start]
    rw [same]
    exact (tidy.toNeat.of_infix (List.prefix_append _ _).isInfix).tidy_trimmed
  · exact tidy

theorem tidy_plainText (text : String) : Tidy (plainText text) := by
  rw [plainText_eq]
  exact tidy_withoutFragment (tidy_withoutColon (Text.tidy_spaced_fromKey text))

theorem tidy_divide (tidy : Tidy cs) : Tidy (divide lookup cs).2 := by
  unfold divide
  split
  · exact tidy
  · rename_i before behind cut
    obtain ⟨rfl, -⟩ := Text.eq_of_cut?_eq_some cut
    split
    · exact tidy
    · split
      · exact tidy
      · refine (tidy.toNeat.of_infix ?_).tidy_trimmed
        exact ⟨before ++ [':'], [], by simp⟩

/-- A title is read from a plain text without illegal characters, of which a name is left that is neither
empty nor too long. -/
theorem read?_eq_some_iff :
    read? lookup text = some title ↔
      (plainText text ≠ [] ∧ (plainText text).any isIllegal = false) ∧
      ((divide lookup (plainText text)).2 ≠ [] ∧
        byteCount (divide lookup (plainText text)).2 ≤ maxBytes) ∧
      title = ⟨(divide lookup (plainText text)).1,
        String.ofList (Text.capitalized (divide lookup (plainText text)).2)⟩ := by
  simp only [read?, Option.ite_none_left_eq_some, Option.some.injEq, Bool.or_eq_true,
    List.isEmpty_iff, decide_eq_true_eq, not_or, Bool.not_eq_true, Nat.not_lt,
    eq_comm (b := title), ne_eq]

theorem isKey_of_read? (read : read? lookup text = some title) :
    Text.IsKey title.key := by
  obtain ⟨-, ⟨inhabited, -⟩, rfl⟩ := read?_eq_some_iff.mp read
  exact Text.isKey_toKey_capitalized (tidy_divide (tidy_plainText text)) inhabited

end Title

namespace Site

variable {name category : String} {depth : Nat}

theorem isKey_categoryKey (inhabited : categoryKey name ≠ "") :
    Text.IsKey (categoryKey name) := by
  have shape : categoryKey name = Text.toKey (String.ofList
      (Text.capitalized (Text.spaced (Text.fromKey name).toList))) := by
    rw [categoryKey, Text.capitalizeFirst, Text.normalizeSpaces, String.toList_ofList]
  rw [shape] at inhabited ⊢
  refine Text.isKey_toKey_capitalized (Text.tidy_spaced_fromKey name) fun empty => inhabited ?_
  rw [empty]
  rfl

theorem isKey_of_mem_subcategories (site : Site)
    (member : name ∈ site.subcategories category depth) : Text.IsKey name := by
  obtain ⟨last, explored⟩ := (Explored.start site.LiesBelow (categoryKey category)).reach
    site.mem_children_iff (min depth 2)
  obtain ⟨n, further, -, way⟩ := (explored.found_iff name).mp member
  cases way with
  | here => exact absurd further (by decide)
  | down _ below =>
    obtain ⟨-, -, other, -, -, -, rfl, inhabited⟩ := below
    exact isKey_categoryKey inhabited

end Site

end WikiQuery

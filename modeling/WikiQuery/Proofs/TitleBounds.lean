import Mathlib.Data.List.TakeWhile
import WikiQuery.Proofs.Scrolling
import WikiQuery.Proofs.Spacing

/-!
The bounds of a list that is scrolled. A bound is brought into the form of stored titles by itself: the
white space around it goes, its first letter becomes a capital, and its spaces become underscores. That
is the title which the text names exactly if the text has no other white space than single spaces, or
underscores in their place, between its words. In no other case is the bound the key of any title.
-/

set_option autoImplicit false

namespace WikiQuery

namespace Text

variable {c : Char} {cs : List Char} {s : String}

/-- A text that is more than white space and underscores is more than white space. -/
theorem isBlankText_eq_false_of_spaced (inhabited : spaced (fromKey s).toList ≠ []) :
    isBlankText s = false := by
  refine Bool.eq_false_iff.mpr fun blank => inhabited ?_
  have start : trimStart s.toList = [] :=
    List.dropWhile_eq_nil_iff.mpr (List.all_eq_true.mp blank)
  rw [← spaced_fromKey_trim, trimmed, start]
  rfl

/-- The underscores behind the first letter do not show in the stored form. -/
theorem map_keyChar_capitalized_readChar (first : cs.head? ≠ some '_') :
    (capitalized (cs.map readChar)).map keyChar = (capitalized cs).map keyChar := by
  cases cs with
  | nil => rfl
  | cons c cs =>
    have other : c ≠ '_' := fun same => first (congrArg some same)
    rw [List.map_cons, readChar_of_ne other, capitalized, capitalized, List.map_append,
      List.map_append, map_keyChar_map_readChar]

/-- What is stored of a text is behind the first letter what is stored of the rest. -/
theorem toList_toKey_capitalized (c : Char) (cs : List Char) :
    (toKey (String.ofList (capitalized (c :: cs)))).toList =
      (upperChar c).map keyChar ++ cs.map keyChar := by
  rw [toList_toKey, String.toList_ofList, capitalized, List.map_append]

private theorem ne_underscore_of_isKey (key : IsKey (toKey (String.ofList (capitalized (c :: cs))))) :
    c ≠ '_' := by
  rintro rfl
  have upper : upperChar '_' = ['_'] := by decide +kernel
  refine key.start ?_
  rw [toList_toKey_capitalized, upper]
  rfl

/-- White space behind the first letter of a key is spaces. -/
private theorem eq_space_of_isKey (key : IsKey (toKey (String.ofList (capitalized (c :: cs)))))
    {d : Char} (member : d ∈ cs) (blank : isBlank d = true) : d = ' ' := by
  by_contra apart
  have held : keyChar d = d := if_neg apart
  have listed : d ∈ (toKey (String.ofList (capitalized (c :: cs)))).toList := by
    rw [toList_toKey_capitalized]
    exact List.mem_append_right _ (List.mem_map.mpr ⟨d, member, held⟩)
  rw [key.solid d listed] at blank
  cases blank

/-- Two spaces that follow one another in a text are two underscores of what is stored of it. -/
private theorem not_double_space_of_isKey
    (key : IsKey (toKey (String.ofList (capitalized (c :: cs))))) :
    ¬[' ', ' '] <:+: cs.map readChar := by
  intro double
  have pair := double.map keyChar
  rw [map_keyChar_map_readChar] at pair
  refine key.single (pair.trans ?_)
  rw [toList_toKey_capitalized]
  exact (List.suffix_append _ _).isInfix

private theorem getLast?_ne_underscore_of_isKey
    (key : IsKey (toKey (String.ofList (capitalized (c :: cs))))) : cs.getLast? ≠ some '_' := by
  intro last
  refine key.finish ?_
  rw [toList_toKey_capitalized, List.getLast?_append, List.getLast?_map, last]
  rfl

/-- A trimmed text that is stored as a key when its first letter is made a capital has only single spaces
or underscores, and only within. -/
theorem tidy_of_isKey_capitalized (trim : trimmed cs = cs)
    (key : IsKey (toKey (String.ofList (capitalized cs)))) : Tidy (cs.map readChar) := by
  obtain ⟨front, back⟩ := trimmed_eq_self_iff.mp trim
  cases cs with
  | nil => exact absurd rfl key.inhabited
  | cons c cs =>
    have solid : isBlank c = false := front c rfl
    have other := ne_underscore_of_isKey key
    rw [List.map_cons, readChar_of_ne other]
    refine ⟨⟨?_, ?_, ?_⟩, trimmed_eq_self_iff.mpr ⟨?_, ?_⟩⟩
    · intro d member blank
      rcases List.mem_cons.mp member with rfl | later
      · rw [solid] at blank
        cases blank
      · obtain ⟨e, written, rfl⟩ := List.mem_map.mp later
        by_cases same : e = '_'
        · exact readChar_eq_space_iff.mpr (.inl same)
        · rw [readChar_of_ne same] at blank ⊢
          exact eq_space_of_isKey key written blank
    · intro double
      rcases List.infix_cons_iff.mp double with start | later
      · obtain rfl := (List.cons_prefix_cons.mp start).1
        exact absurd isBlank_space (Bool.eq_false_iff.mp solid)
      · exact not_double_space_of_isKey key later
    · rw [List.mem_cons, not_or]
      exact ⟨other.symm, underscore_not_mem_map_readChar cs⟩
    · intro d start
      obtain rfl := Option.some.inj start
      exact solid
    · intro d finish
      rw [List.getLast?_cons, List.getLast?_map] at finish
      cases last : cs.getLast? with
      | none =>
        rw [last] at finish
        obtain rfl := Option.some.inj finish
        exact solid
      | some e =>
        have same : e ≠ '_' := by
          rintro rfl
          exact getLast?_ne_underscore_of_isKey key last
        rw [last] at finish
        obtain rfl := Option.some.inj finish
        rw [Option.map_some, Option.getD_some, readChar_of_ne same]
        exact back e (by rw [List.getLast?_cons, last]; rfl)

end Text

namespace Title

variable {lookup : String → Option Int} {text : String} {title : Title}

/-- A text without a colon and without a fragment names the title of the main namespace that it is when its
white space is joined. -/
theorem eq_of_read?_undivided (read : read? lookup text = some title) (undivided : ':' ∉ text.toList)
    (unmarked : '#' ∉ text.toList) :
    Text.spaced (Text.fromKey text).toList ≠ [] ∧ title = ⟨Namespace.mainId,
      String.ofList (Text.capitalized (Text.spaced (Text.fromKey text).toList))⟩ := by
  have colon : ':' ∉ Text.spaced (Text.fromKey text).toList := fun member =>
    (Text.mem_spaced_fromKey member).elim (by decide) undivided
  have mark : '#' ∉ Text.spaced (Text.fromKey text).toList := fun member =>
    (Text.mem_spaced_fromKey member).elim (by decide) unmarked
  have plain : plainText text = Text.spaced (Text.fromKey text).toList := by
    have colonless : withoutColon (Text.spaced (Text.fromKey text).toList) =
        Text.spaced (Text.fromKey text).toList := by
      unfold withoutColon
      split
      · rename_i same
        rw [same] at colon
        exact absurd List.mem_cons_self colon
      · rfl
    rw [plainText_eq, colonless, withoutFragment, Text.cut?_eq_none_iff.mpr mark]
  have whole : divide lookup (Text.spaced (Text.fromKey text).toList) =
      (Namespace.mainId, Text.spaced (Text.fromKey text).toList) := by
    rw [divide, Text.cut?_eq_none_iff.mpr colon]
  obtain ⟨⟨inhabited, -⟩, -, same⟩ := read?_eq_some_iff.mp read
  rw [plain] at inhabited same
  rw [whole] at same
  exact ⟨inhabited, same⟩

/-- A bound is the key of the title that its text names exactly if the text, trimmed and read in spaces, has
single spaces only. -/
theorem boundKey_eq_key_iff (read : read? lookup text = some title) (undivided : ':' ∉ text.toList)
    (unmarked : '#' ∉ text.toList) :
    Reading.boundKey text = title.key ↔ Text.Tidy (Text.fromKey (Text.trim text)).toList := by
  have bound : Reading.boundKey text =
      Text.toKey (String.ofList (Text.capitalized (Text.trimmed text.toList))) := by
    rw [Reading.boundKey, Text.capitalizeFirst, Text.trim, String.toList_ofList]
  have spelled : (Text.fromKey (Text.trim text)).toList =
      (Text.trimmed text.toList).map Text.readChar := by
    rw [Text.toList_fromKey, Text.trim, String.toList_ofList]
    rfl
  rw [bound, spelled]
  constructor
  · intro same
    refine Text.tidy_of_isKey_capitalized (Text.trimmed_trimmed _) ?_
    rw [same]
    exact isKey_of_read? read
  · intro tidy
    obtain ⟨-, rfl⟩ := eq_of_read?_undivided read undivided unmarked
    have first : (Text.trimmed text.toList).head? ≠ some '_' := by
      intro start
      have blank := (Text.trimmed_eq_self_iff.mp tidy.trim).1 ' ' (by rw [List.head?_map, start]; rfl)
      exact absurd blank (by decide)
    rw [key, ← Text.spaced_fromKey_trim, tidy.spaced_eq, ← String.toList_inj, Text.toList_toKey,
      Text.toList_toKey, String.toList_ofList, String.toList_ofList,
      Text.map_keyChar_capitalized_readChar first]

end Title

theorem Reading.requested?_eq_some {host : Host} {key : String}
    (given : Text.isBlankText (host.requestValue key "") = false) :
    requested? host key = some (host.requestValue key "") := by
  simp only [requested?, given, Bool.false_eq_true, if_false]

namespace Engine

open Reading (boundKey)

variable {e : Engine} {site : Site} {asked text : String} {title : Title}

/-- A text of the request that names a title without a colon and without a fragment names one of the main
namespace. Scrolling stores its bound, with a mark in front if the title is looked for. The bound is the
key of the title exactly if the text, trimmed and read in spaces, has single spaces only. -/
theorem bounds_scroll (standard : e.registry = .standard) (rich : 1 ≤ e.settings.richness)
    (hosted : e.host = site.host) (on : Text.truth? text = some true)
    (resolved : site.resolveTitle asked = some title) (undivided : ':' ∉ asked.toList)
    (unmarked : '#' ∉ asked.toList) (s : Session) :
    let find := site.requestValue "DPL_findTitle" ""
    let after := (e.process s "scroll" text).1.spec
    title.namespaceId = Namespace.mainId ∧
      (find = asked → after.value? "titlegt" = some (.text ("=_" ++ boundKey asked))) ∧
      (Text.isBlankText find = true → site.requestValue "DPL_fromTitle" "" = asked →
        after.value? "titlegt" = some (.text (boundKey asked))) ∧
      (site.requestValue "DPL_toTitle" "" = asked →
        after.value? "titlelt" = some (.text (boundKey asked))) ∧
      (boundKey asked = title.key ↔ Text.Tidy (Text.fromKey (Text.trim asked)).toList) := by
  intro find after
  have key := Title.boundKey_eq_key_iff resolved undivided unmarked
  obtain ⟨inhabited, rfl⟩ := Title.eq_of_read?_undivided resolved undivided unmarked
  have given := Text.isBlankText_eq_false_of_spaced inhabited
  have values : ∀ key, e.host.requestValue key "" = site.requestValue key "" := by
    rw [hosted]
    exact fun _ => rfl
  have asks : ∀ key, site.requestValue key "" = asked → Reading.requested? e.host key = some asked := by
    intro key same
    rw [← values] at same
    rw [Reading.requested?_eq_some (same ▸ given), same]
  obtain ⟨-, stored⟩ := process_scroll standard rich on s
  have lower : after.value? "titlegt" = ((Reading.lowerBound? e.host).map Value.text).or
      (s.spec.value? "titlegt") := stored _ _ (by simp [Reading.scrollOffers])
  have upper : after.value? "titlelt" = ((Reading.requested? e.host "DPL_toTitle").map fun title =>
      Value.text (boundKey title)).or (s.spec.value? "titlelt") :=
    stored _ _ (by simp [Reading.scrollOffers])
  refine ⟨rfl, fun looked => ?_, fun blank begun => ?_, fun ended => ?_, key⟩
  · rw [lower, Reading.lowerBound?, asks _ looked]
    rfl
  · have none : Reading.requested? e.host "DPL_findTitle" = none := by
      simp only [Reading.requested?, values]
      exact if_pos blank
    rw [lower, Reading.lowerBound?, none, asks _ begun]
    rfl
  · rw [upper, asks _ ended]
    rfl

/-- Underscores may stand for single spaces, and white space around a title does not count; but a run of
spaces within it does. -/
theorem bounds_scroll_spaces :
    let values := [("DPL_findTitle", "\tßa_b c "), ("DPL_toTitle", "ßa  b c")]
    let site : Site := { request := .ofList values compare }
    let e : Engine := ⟨.standard, {}, site.host⟩
    let title : Title := ⟨Namespace.mainId, "SSa b c"⟩
    let after := (e.process e.start "scroll" "on").1.spec
    site.resolveTitle "\tßa_b c " = some title ∧ site.resolveTitle "ßa  b c" = some title ∧
      after.value? "titlegt" = some (.text ("=_" ++ title.key)) ∧
      ∃ bound, after.value? "titlelt" = some (.text bound) ∧ bound ≠ title.key := by
  intro values site e title after
  have rich : 1 ≤ e.settings.richness := by decide
  have on : Text.truth? "on" = some true := by decide
  have found : site.resolveTitle "\tßa_b c " = some title := by decide +kernel
  have ended : site.resolveTitle "ßa  b c" = some title := by decide +kernel
  obtain ⟨-, stored, -, -, key⟩ :=
    bounds_scroll (e := e) rfl rich rfl on found (by decide) (by decide) e.start
  obtain ⟨-, -, -, stored', key'⟩ :=
    bounds_scroll (e := e) rfl rich rfl on ended (by decide) (by decide) e.start
  have tidy : Text.Tidy (Text.fromKey (Text.trim "\tßa_b c ")).toList := by
    have single : Text.spaced (Text.fromKey "ßa b c").toList =
        (Text.fromKey (Text.trim "\tßa_b c ")).toList := by decide +kernel
    rw [← single]
    exact Text.tidy_spaced_fromKey _
  have double : [' ', ' '] <:+: (Text.fromKey (Text.trim "ßa  b c")).toList := by decide +kernel
  refine ⟨found, ended, ?_, _, stored' (by decide +kernel), fun same => ?_⟩
  · rw [← key.mpr tidy]
    exact stored (by decide +kernel)
  · exact (key'.mp same).single double

/-- The letter behind an underscore is the first one of a title, and is made a capital; of a bound it is the
second character. -/
theorem bounds_scroll_underscore :
    let site : Site := { request := .ofList [("DPL_fromTitle", "_foo")] compare }
    let e : Engine := ⟨.standard, {}, site.host⟩
    let title : Title := ⟨Namespace.mainId, "Foo"⟩
    site.resolveTitle "_foo" = some title ∧ title.key = "Foo" ∧ boundKey "_foo" = "_foo" ∧
      (e.process e.start "scroll" "yes").1.spec.value? "titlegt" = some (.text "_foo") := by
  decide +kernel

end Engine

end WikiQuery

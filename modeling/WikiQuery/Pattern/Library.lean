import WikiQuery.Pattern.Search
import WikiQuery.Pattern.Source

/-!
Libraries of patterns. What the text form of a pattern means is left to a library. Of the library it is
only asked that it knows plain patterns, and matches them as they are documented: from the first place from
which there is a match, and there in the preferred way.
-/

set_option autoImplicit false

namespace WikiQuery

/-- What the groups of a pattern capture in a text, in the order of their numbers: the match begins at the
first place from which there is a way to match, and is the preferred one of the ways. -/
def Pattern.preferred? (p : Pattern) (s : String) : Option (List String) :=
  (({ rest := s.toList } : Progress).places.findSome? fun place =>
    (ways s.toList.length p place).head?).map fun found =>
      (List.range p.groupCount).map fun i => String.ofList (found.captured (i + 1))

/-- The search finds the preferred match. -/
theorem Pattern.captures?_eq_preferred? (p : Pattern) : p.captures? = p.preferred? := by
  funext s
  rw [captures?, firstMatch?_eq_findSome?, preferred?]

/-- A library of patterns. -/
structure PatternLibrary where
  /-- What the groups of a pattern capture in a text that it matches, for its text form, if that is well
  formed. A group that takes no part in the match captures the empty text. -/
  compile : String → Option (String → Option (List String))
  /-- Plain patterns are well formed, and are matched from the left, first alternatives first. -/
  leftmostFirst : ∀ {source : String} {pattern : Pattern}, Pattern.ofSource? source = some pattern →
    compile source = some pattern.preferred?

/-- The library that knows plain patterns and no others. -/
def PatternLibrary.plain : PatternLibrary where
  compile source := (Pattern.ofSource? source).map Pattern.captures?
  leftmostFirst := by
    intro source pattern known
    rw [known, Option.map_some, Pattern.captures?_eq_preferred?]

end WikiQuery

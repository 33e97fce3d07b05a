import WikiQuery.Host
import WikiQuery.Number.Numeral
import WikiQuery.Parameter
import WikiQuery.Settings
import WikiQuery.Specification
import WikiQuery.Text.Truth

/-!
Parameters for how many pages are listed and from which on, and for how the list is made.
-/

set_option autoImplicit false

namespace WikiQuery.Reading

/-- The number of pages that a text asks for, held within the settings. -/
def resultCount? (settings : Settings) (text : String) : Option Int :=
  ((Number.coerceInteger text none).filter fun n => decide (0 < n)).map settings.clampResults

/-- How many pages are listed at most. -/
def count (settings : Settings) (text : String) : Option Change :=
  (resultCount? settings text).map fun n => { writes := [("count", .int n)] }

/-- A bound of the listed titles, as titles are stored. -/
def boundKey (text : String) : String :=
  Text.toKey (Text.capitalizeFirst (Text.trim text))

/-- The value of a key of the request, if there is more to it than white space. -/
def requested? (host : Host) (key : String) : Option String :=
  let value := host.requestValue key ""
  if Text.isBlankText value then none else some value

/-- The bound that the listed titles start from: the title that is looked for, or else the one to go
on from. -/
def lowerBound? (host : Host) : Option String :=
  match requested? host "DPL_findTitle" with
  | some title => some ("=_" ++ boundKey title)
  | none => (requested? host "DPL_fromTitle").map boundKey

/-- What the request asks for when a list is scrolled. -/
def scrollWrites (settings : Settings) (host : Host) : List (String × Value) :=
  let lower := (lowerBound? host).map fun key => ("titlegt", Value.text key)
  let upper := (requested? host "DPL_toTitle").map fun title => ("titlelt", .text (boundKey title))
  let direction := (requested? host "DPL_scrollDir").map fun word =>
    ("scrolldir", .text (Text.lower (Text.trim word)))
  let count := (resultCount? settings (host.requestValue "DPL_count" "")).map fun n =>
    ("count", .int n)
  lower.toList ++ upper.toList ++ direction.toList ++ count.toList

/-- Whether the request says which pages are listed. -/
def scroll (settings : Settings) (host : Host) (text : String) : Option Change :=
  (Text.truth? text).map fun enabled =>
    { writes := ("scroll", .bool enabled) :: if enabled then scrollWrites settings host else [] }

/-- Whether a list may be kept, and whether a warning is to tell so. A list of which a part is carried
out is never kept. -/
def allowCachedResults (spec : Specification) (text : String) : Option Change :=
  if (spec.value? "execandexit").isSome then
    some { writes := [("allowcachedresults", .bool false)] }
  else
    let word := Text.lower (Text.trim text)
    if word = "yes+warn" then
      some { writes := [("allowcachedresults", .bool true), ("warncachedresults", .bool true)] }
    else
      (Text.truth? word).map fun allowed => { writes := [("allowcachedresults", .bool allowed)] }

/-- How much is reported about the making of the list. -/
def debug (p : Parameter) (text : String) : Option Change :=
  let word := Text.trim text
  if !p.namedValues.contains word then none
  else
    (Number.byte? word).map fun (level : Nat) =>
      { writes := [("debug", .int (level : Int))], verbosity := some level }

end WikiQuery.Reading

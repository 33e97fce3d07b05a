import WikiQuery.Procedure
import WikiQuery.Reading.Listing
import WikiQuery.Reading.Paging

/-!
The steps by which parameters are read for the form and the order of a list of pages, and for how it
is made.
-/

set_option autoImplicit false

namespace WikiQuery.Procedure

open Reading (boundKey inlineBreak isFlagGroup items requested? resultCount? setFlag)

/-- Reads what pages are ordered by. -/
def orderMethod (p : Parameter) (text : String) : Procedure Bool := do
  let methods := items ',' (Text.lower text)
  if !methods.all p.namedValues.contains then return false
  if methods.head? != some "none" then
    noteConflict
  write "ordermethod" (.list methods)
  return true

/-- Reads the form of the list. -/
def mode (p : Parameter) (text : String) : Procedure Bool := do
  let mode := Text.lower (Text.trim text)
  if !p.namedValues.contains mode then return false
  if mode = "none" then
    write "mode" (.text "inline")
    write "inlinetext" (.text inlineBreak)
  else if mode = "userformat" then
    write "mode" (.text "userformat")
    write "inlinetext" (.text "")
  else
    write "mode" (.text mode)
  return true

/-- Reads whether pages are listed once only. -/
def distinct (text : String) : Procedure Bool := do
  let word := Text.lower (Text.trim text)
  if word = "strict" then
    write "distinct" (.distinct .strict)
    return true
  let some truth := Text.truth? word | return false
  write "distinct" (.distinct (if truth then .on else .off))
  return true

/-- Reads whether links to pages are listed, and to which. -/
def openReferences (text : String) : Procedure Bool := do
  let word := Text.lower (Text.trim text)
  if word = "missing" then
    write "openreferences" (.openReferences .missing)
    return true
  let some truth := Text.truth? word | return false
  write "openreferences" (.openReferences (if truth then .yes else .no))
  return true

/-- Reads the collation that titles are ordered by. -/
def orderCollation (text : String) : Procedure Bool := do
  let name := Text.trim text
  if name.isEmpty then return false
  if Text.eqIgnoringCase name "bridge" then
    write "ordersuitsymbols" (.bool true)
  else
    write "ordercollation" (.text name)
  return true

/-- Reads what stands before the list, before an item, behind an item and behind the list. -/
def format (text : String) : Procedure Bool := do
  let expanded := Text.expandLineBreaks (Text.stripHtmlTags text)
  write "listseparators" (.list (Text.splitAtMost ',' 3 expanded))
  write "mode" (.text "userformat")
  write "inlinetext" (.text "")
  return true

/-- Reads a line of flags. All its words have to be known before any flag is set. -/
def flagSet (p : Parameter) (text : String) : Procedure Bool := do
  let words := (items ',' (Text.lower text)).filter fun word => !word.isEmpty
  if words.isEmpty || !words.all p.namedValues.contains then return false
  let known := p.namedValues.filter fun flag => !isFlagGroup flag
  let old := ((← query).flags? p.name).getD ∅
  write p.name (.flags (words.foldl (setFlag known) old))
  return true

/-- Reads a pattern and what replaces its matches in titles. -/
def replaceInTitle (text : String) : Procedure Bool := do
  let pattern :: replacement := Text.splitAtMost ',' 1 text | return false
  if Text.isBlankText pattern then return false
  write "replaceintitle" (.list (pattern :: replacement.map Text.stripHtmlTags))
  return true

/-- Writes the bound that the listed titles start from, if the request names one. -/
def offerLowerBound (host : Host) : Procedure Unit :=
  match requested? host "DPL_findTitle" with
  | some title => write "titlegt" (.text ("=_" ++ boundKey title))
  | none => offer "titlegt" ((requested? host "DPL_fromTitle").map fun title => .text (boundKey title))

/-- Reads whether the request says which pages are listed. That is written before the request is looked
at; nothing in the request refuses the text any more. -/
def scroll (settings : Settings) (host : Host) (text : String) : Procedure Bool := do
  let some enabled := Text.truth? text | return false
  write "scroll" (.bool enabled)
  if !enabled then return true
  offerLowerBound host
  offer "titlelt" ((requested? host "DPL_toTitle").map fun title => .text (boundKey title))
  offer "scrolldir" ((requested? host "DPL_scrollDir").map fun word =>
    .text (Text.lower (Text.trim word)))
  offer "count" ((resultCount? settings (host.requestValue "DPL_count" "")).map .int)
  return true

/-- Reads whether a list may be kept. -/
def allowCachedResults (text : String) : Procedure Bool := do
  if ((← query).value? "execandexit").isSome then
    write "allowcachedresults" (.bool false)
    return true
  let word := Text.lower (Text.trim text)
  if word = "yes+warn" then
    write "allowcachedresults" (.bool true)
    write "warncachedresults" (.bool true)
    return true
  let some allowed := Text.truth? word | return false
  write "allowcachedresults" (.bool allowed)
  return true

/-- Reads how many pages are listed at most. -/
def count (settings : Settings) (text : String) : Procedure Bool := do
  let some n := resultCount? settings text | return false
  write "count" (.int n)
  return true

/-- Reads how much is reported. The level is called for once it is written. -/
def debug (p : Parameter) (text : String) : Procedure Bool := do
  let word := Text.trim text
  if !p.namedValues.contains word then return false
  let some level := Number.byte? word | return false
  write "debug" (.int (level : Nat))
  report level
  return true

end WikiQuery.Procedure

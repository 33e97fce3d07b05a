import WikiQuery.Number.Numeral
import WikiQuery.Reading.PageList
import WikiQuery.Specification
import WikiQuery.Text.Tag
import WikiQuery.Text.Truth

/-!
The common way to read a parameter. Its text passes the stages that are laid down for the parameter,
in a fixed order, and the first stage that does not take it refuses it. The stages for integers,
truth values and lists of pages give the value itself; those for patterns and keys are for text.
-/

set_option autoImplicit false

namespace WikiQuery.Reading

/-- The text of a parameter with its case and its tags seen to. -/
def prepared (p : Parameter) (text : String) : String :=
  let text := if p.preservesCase || p.pageNames.isSome then text else Text.lower text
  if p.stripsHtml then Text.stripHtmlTags text else text

/-- What the groups of a pattern capture, stored as keys if the parameter is one. -/
def capturedGroups? (host : Host) (p : Parameter) (source text : String) :
    Option (List String) :=
  (host.patterns.compile source).bind fun captures? =>
    (captures? text).map fun groups => if p.isKey then groups.map Text.toKey else groups

/-- The value of a text that is neither an integer nor a truth value. Groups of pages are collected
behind those that the query has. -/
def textualValue? (host : Host) (p : Parameter) (spec : Specification) (text : String) :
    Option Value :=
  match p.pageNames with
  | some kind =>
    match pageList? host kind text with
    | none | some [] => none
    | some pages => some (.pageGroups ((spec.pageGroups? p.name).getD [] ++ [pages]))
  | none =>
    match p.pattern with
    | some source => (capturedGroups? host p source text).map .list
    | none => some (.text (if p.isKey then Text.toKey text else text))

/-- The value of a parameter that is read in the common way. -/
def staged? (host : Host) (p : Parameter) (spec : Specification) (text : String) : Option Value :=
  if !p.allows (Text.lower text) then none
  else
    let text := prepared p text
    if p.isInteger then (Number.coerceInteger text p.defaultInteger?).map .int
    else if p.isBoolean then (Text.truth? text).map .bool
    else if p.isTimestamp then (host.normalizeTimestamp text).bind (textualValue? host p spec)
    else textualValue? host p spec text

end WikiQuery.Reading
